import Bedspace.Calendar.DateText
import Bedspace.CommandLine.Options
import Bedspace.Decimal.Read
import Bedspace.Search.Basic
import Bedspace.Settings.Basic

/-!
# Commands

The program serves requests, which it does also without any word, or searches for beds once.

* `Command.ofWords` turns the words of a command line into a command;
* the files of a search may be named before or after the word for the service, the latter counting
  if both are done;
* numbers and dates are checked while the words are read, and what a search demands beyond that is
  left to the search.
-/

namespace Bedspace

open Text

/-- What serving is told on the command line. -/
structure ServeOptions where
  host : Option String
  port : Option Nat
  sources : EstateSources
  deriving DecidableEq, Repr

/-- What the program is told to do. -/
inductive Command where
  | serve (options : ServeOptions)
  | search (sources : EstateSources) (search : BedSearch)

namespace Command

open CommandLine

/-! ## 1. Values of options -/

/-- A date with blanks around it. -/
def readDate (raw : String) : Option Date := (Date.read .tight (trim raw)).toOption

/-- A port, with a sign or without. -/
def readPort (raw : String) : Option Nat :=
  ((readInt raw).filter fun n => 0 ≤ n && n < (limit16 : Int)).map Int.toNat

/-- An option with a text. -/
def textOption (name : String) : OptionRule := ⟨name, false, fun _ => true⟩

/-- An option with a text that may be given several times. -/
def textsOption (name : String) : OptionRule := ⟨name, true, fun _ => true⟩

/-- An option with the name of a file. -/
def fileOption (name : String) : OptionRule := ⟨name, false, fun raw => raw ≠ ""⟩

/-- An option with a value that a function understands. -/
def parsedOption {α : Type} (name : String) (parse : String → Option α) : OptionRule :=
  ⟨name, false, fun raw => (parse raw).isSome⟩

/-! ## 2. The options of each command -/

/-- The files of the estate. -/
def sourceRules : List OptionRule := [fileOption "estate-csv", fileOption "postcode-csv"]

/-- The options of serving. -/
def serveRules : List OptionRule :=
  [textOption "host", parsedOption "port" readPort] ++ sourceRules

/-- The options of all searches. -/
def searchRules : List OptionRule :=
  [parsedOption "start-date" readDate, parsedOption "duration-days" readInt,
    textsOption "premises-characteristic", textsOption "room-characteristic"] ++ sourceRules

/-- The options of a search in approved premises. -/
def approvedRules : List OptionRule :=
  [textOption "postcode-district", parsedOption "max-distance-miles" Decimal.readFloat]
    ++ searchRules

/-- The options of a search in temporary accommodation. -/
def temporaryRules : List OptionRule := textsOption "pdu" :: searchRules

/-! ## 3. From options to commands -/

/-- A value that has to be there. -/
def demand {α : Type} : Option α → Except NoCommand α
  | some a => .ok a
  | none => .error .mistake

/-- The files that are named. -/
def sources (given : List GivenOption) : EstateSources :=
  ⟨lastValue given "estate-csv", lastValue given "postcode-csv"⟩

/-- The characteristics that are named. -/
def characteristics (given : List GivenOption) : RequiredCharacteristics :=
  ⟨Table.ofList (valuesOf given "premises-characteristic"),
    Table.ofList (valuesOf given "room-characteristic")⟩

/-- The first night and the number of nights. -/
def nights (given : List GivenOption) : Except NoCommand (Date × Int) := do
  let startDate ← demand ((lastValue given "start-date").bind readDate)
  let durationDays ← demand ((lastValue given "duration-days").bind readInt)
  pure (startDate, durationDays)

/-- A search in approved premises. -/
def approvedSearch (given : List GivenOption) : Except NoCommand BedSearch := do
  let district ← demand (lastValue given "postcode-district")
  let (startDate, durationDays) ← nights given
  pure (.approvedPremises
    ⟨district, (lastValue given "max-distance-miles").bind Decimal.readFloat, startDate,
      durationDays, characteristics given⟩)

/-- A search in temporary accommodation. -/
def temporarySearch (given : List GivenOption) : Except NoCommand BedSearch := do
  let units := valuesOf given "pdu"
  if units.isEmpty then throw .mistake
  let (startDate, durationDays) ← nights given
  pure (.temporaryAccommodation ⟨units, startDate, durationDays, characteristics given⟩)

/-! ## 4. Words -/

/-- The options that ask for help. -/
def helpNotices : List String := ["--help", "-h"]

/-- The options of a command up to its end. -/
def readAll (rules : List OptionRule) (words : List String) :
    Except NoCommand (List GivenOption) := do
  let (given, rest) ← readOptions rules helpNotices [] words
  if rest.isEmpty then pure given else throw .mistake

/-- The words after `serve`. -/
def ofServeWords (words : List String) : Except NoCommand Command := do
  let given ← readAll serveRules words
  pure (.serve ⟨lastValue given "host", (lastValue given "port").bind readPort, sources given⟩)

/-- The words that may come right after others, which lead to a command from the start on. -/
def wordsBelow : List String → List String
  | [] => ["serve", "search", "help"]
  | ["search"] => ["approved-premises", "temporary-accommodation", "help"]
  | _ => []

/-- Asks for help with a command below another one. Every word has to lead further down. -/
def help (above : List String) : List String → NoCommand
  | [] => .helpWanted
  | word :: words =>
    if (wordsBelow above).contains word then help (above ++ [word]) words else .mistake

/-- The words after `search`. -/
def ofSearchWords (words : List String) : Except NoCommand Command := do
  let (before, rest) ← readOptions sourceRules helpNotices [] words
  match rest with
  | "approved-premises" :: words => do
    let given ← readAll approvedRules words
    let search ← approvedSearch given
    pure (.search (sources (before ++ given)) search)
  | "temporary-accommodation" :: words => do
    let given ← readAll temporaryRules words
    let search ← temporarySearch given
    pure (.search (sources (before ++ given)) search)
  | "help" :: words => throw (help ["search"] words)
  | _ => throw .mistake

/-- The command that the words of a command line mean. -/
def ofWords (words : List String) : Except NoCommand Command := do
  let (_, rest) ← readOptions [] (helpNotices ++ ["--version", "-V"]) [] words
  match rest with
  | [] => pure (.serve ⟨none, none, ⟨none, none⟩⟩)
  | "serve" :: words => ofServeWords words
  | "search" :: words => ofSearchWords words
  | "help" :: words => throw (help [] words)
  | _ => throw .mistake

end Command

end Bedspace
