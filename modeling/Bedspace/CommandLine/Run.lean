import Bedspace.CommandLine.Command
import Bedspace.Estate.Listing
import Bedspace.Failure
import Bedspace.Search.Find
import Bedspace.Search.Report
import Bedspace.Settings.LogFilter
import Bedspace.Text.Utf8

/-!
# Carrying out a command line

A command line is carried out in `Surroundings`: the variables, a way to read files and a way to
listen at an address.

* `loadSettings` reads the settings, and `overridden` lets what the command line says outweigh them;
* `seedStore` fills a store from the files of the estate; a file that is not named is left out;
* `run` is the whole program: its `Result` tells what to print and with which status to end.
-/

namespace Bedspace

/-- What a command line is carried out in. -/
structure Surroundings (m : Type → Type) where
  env : Variables
  /-- The bytes of a file, or why it cannot be opened. -/
  fileBytes : String → m (Except String (List UInt8))
  /-- Answers requests at an address until it has to stop; the reason if it cannot listen there. -/
  listen : SocketAddress → SearchSettings → Store → m (Except String Unit)

/-- What the program prints and how it ends. -/
inductive Result where
  | finished (output : List String)
  | failed (failure : Failure)
  | helpWanted
  | mistake

/-- The status with which the program ends. -/
def Result.status : Result → Nat
  | finished _ => 0
  | failed _ => 1
  | helpWanted => 0
  | mistake => 2

/-- Lines with their ends. -/
def linesText (lines : List String) : String := String.join (lines.map (· ++ "\n"))

/-- What the program prints. -/
def Result.output : Result → String
  | finished lines => linesText lines
  | _ => ""

/-- What the program prints in case of a failure. -/
def Result.complaint : Result → String
  | failed failure => "application error: " ++ failure.message ++ "\n"
  | _ => ""

namespace CommandLine

variable {m : Type → Type} [Monad m]

/-- The name of the file of variables that is read before anything else. -/
def variableFile : String := ".env"

/-- The text of bytes, without the line in which they are not UTF-8 and all that follows it. -/
def soundLines (bytes : List UInt8) : String :=
  match Text.Utf8.decode bytes with
  | .ok text => text
  | .error valid =>
    let whole := ((bytes.take valid).reverse.dropWhile (· ≠ 0x0A)).reverse
    (Text.Utf8.decode whole).toOption.getD ""

/-- The variables together with those of the file of variables, if it can be read. -/
def allVariables (surroundings : Surroundings m) : m Variables := do
  match ← surroundings.fileBytes variableFile with
  | .ok bytes => pure (VariableFile.extend surroundings.env (soundLines bytes))
  | .error _ => pure surroundings.env

/-- The settings that the variables give. -/
def loadSettings (surroundings : Surroundings m) : ExceptT Failure m (Settings × Variables) := do
  let env ← (allVariables surroundings : m Variables)
  match Settings.load env with
  | .ok settings => pure (settings, env)
  | .error error => throw (.settings error)

/-- Sources where the ones named first count. -/
def firstSources (a b : EstateSources) : EstateSources :=
  ⟨a.estate.or b.estate, a.districts.or b.districts⟩

/-- Settings in which the options of serving outweigh the variables. -/
def overridden (settings : Settings) (options : ServeOptions) : Settings :=
  { settings with
    host := options.host.getD settings.host
    port := options.port.getD settings.port
    sources := firstSources options.sources settings.sources }

/-- The filter for the log: that of a variable of its own if it is valid, or else the level of the
    settings. -/
def checkLogFilter (settings : Settings) (env : Variables) : Except Failure Unit :=
  if (env.lookup "RUST_LOG").any LogFilter.isValid || LogFilter.isValid settings.logLevel then
    .ok ()
  else .error (.logFilter settings.logLevel)

/-- What a file holds, read in some way. -/
def readSource {α : Type} (surroundings : Surroundings m)
    (parse : List UInt8 → Except ImportError α) (path : String) : ExceptT Failure m α := do
  match ← surroundings.fileBytes path with
  | .error reason => throw (.estateImport (.unreadable reason))
  | .ok bytes =>
    match parse bytes with
    | .ok a => pure a
    | .error error => throw (.estateImport error)

/-- The world after an operation on the store. -/
def advance (world : World) (op : Operation StoreError Nat) : ExceptT Failure m World :=
  match op.run .none world with
  | (.ok _, world) => pure world
  | (.error error, _) => throw (.store error)

/-- A store with the estate and the postcode districts of some files. -/
def seedStore (surroundings : Surroundings m) (sources : EstateSources) :
    ExceptT Failure m World := do
  let mut world := World.ofStore .empty
  if let some path := sources.estate then
    let estate ← readSource surroundings readEstate path
    world ← advance world (Estate.load estate)
  if let some path := sources.districts then
    let districts ← readSource surroundings readDistricts path
    world ← advance world (District.loadAll districts)
  pure world

/-- Searches once. -/
def runSearch (surroundings : Surroundings m) (sources : EstateSources) (search : BedSearch) :
    ExceptT Failure m (List String) := do
  let (settings, _) ← loadSettings surroundings
  let world ← seedStore surroundings (firstSources sources settings.sources)
  match (search.find settings.search.maxDistanceMiles).run .none world with
  | (.ok results, _) => pure results.lines
  | (.error error, _) => throw (.search error)

/-- Serves requests. -/
def runServe (surroundings : Surroundings m) (options : ServeOptions) :
    ExceptT Failure m (List String) := do
  let (settings, env) ← loadSettings surroundings
  let settings := overridden settings options
  liftExcept (checkLogFilter settings env)
  let world ← seedStore surroundings settings.sources
  let address ← liftExcept (settings.socketAddress.mapError .settings)
  match ← surroundings.listen address settings.search world.store with
  | .ok () => pure []
  | .error reason => throw (.io reason)
where
  /-- A result that may be a failure. -/
  liftExcept {α : Type} : Except Failure α → ExceptT Failure m α
    | .ok a => pure a
    | .error failure => throw failure

/-- Carries out a command. -/
def runCommand (surroundings : Surroundings m) : Command → ExceptT Failure m (List String)
  | .serve options => runServe surroundings options
  | .search sources search => runSearch surroundings sources search

/-- **Carries out a command line.** -/
def run (surroundings : Surroundings m) (words : List String) : m Result := do
  match Command.ofWords words with
  | .error .helpWanted => pure .helpWanted
  | .error .mistake => pure .mistake
  | .ok command =>
    match ← ExceptT.run (runCommand surroundings command) with
    | .ok lines => pure (.finished lines)
    | .error failure => pure (.failed failure)

end CommandLine

end Bedspace
