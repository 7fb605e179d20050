import Bedspace.Json.Number
import Bedspace.Text.Blank

/-!
# JSON documents as far as they go

Reading a JSON text stops at its first fault. A `Document` is what was read up to there: a value in
which the place of the fault is marked. So whoever takes a document apart from left to right meets
the parts in order before the fault, and what follows the first value of a text is never looked at.

* `Document.ofText` reads the first value of a text;
* `Document.isSound` says that there is no fault in a document;
* `unreadable` stands for a number too large for a double and for a text with half a character in
  it. Whoever skips it finds nothing wrong, and neither with a name of a field that is such a text.
-/

namespace Bedspace.Json

open Text

/-- How a list or an object goes on after its last part. -/
inductive Ending where
  | closed
  | faulty
  /-- Closed, in a document that was read to its end beforehand (`Document.hold`). -/
  | held
  deriving DecidableEq, Repr

/-- A JSON value up to its first fault. A field whose name holds half a character has none here. -/
inductive Document where
  | null
  | bool (value : Bool)
  | int (value : Int)
  | real (value : Float)
  | text (value : String)
  | list (items : List Document) (ending : Ending)
  | object (fields : List (Option String × Document)) (ending : Ending)
  | unreadable
  | broken

/-- The fields of an object that have a name, in their order; other documents have none. -/
def Document.namedFields : Document → List (String × Document)
  | .object fields _ => fields.filterMap fun (name, value) => name.map fun name => (name, value)
  | _ => []

/-- A part that was read, and what follows it unless there was a fault. -/
structure Reading (α : Type) where
  part : α
  rest : Option (List Char)

namespace Document

/-! ## 1. Reading -/

/-- The characters after the blanks that JSON allows between parts. -/
def skipBlank (cs : List Char) : List Char :=
  cs.dropWhile fun c => c = ' ' || c = '\n' || c = '\t' || c = '\r'

/-- A fault right here. -/
def fault : Reading Document := ⟨.broken, none⟩

/-- The rest of a word whose first character was met. -/
def readWord (word : List Char) (value : Document) (cs : List Char) : Reading Document :=
  if word.isPrefixOf cs then ⟨value, some (cs.drop word.length)⟩ else fault

/-- Four hexadecimal digits in front. -/
def readUnit : List Char → Option (Nat × List Char)
  | a :: b :: c :: d :: rest =>
    match hexDigit a, hexDigit b, hexDigit c, hexDigit d with
    | some a, some b, some c, some d => some (((a * 16 + b) * 16 + c) * 16 + d, rest)
    | _, _, _, _ => none
  | _ => none

/-- The character of an escape of one letter. -/
def escaped : Char → Option Char
  | '"' => some '"'
  | '\\' => some '\\'
  | '/' => some '/'
  | 'b' => some '\x08'
  | 'f' => some '\x0c'
  | 'n' => some '\n'
  | 'r' => some '\r'
  | 't' => some '\t'
  | _ => none

/-- Whether a 16-bit unit is the first half of a character. -/
def isFirstHalf (n : Nat) : Bool := 0xD800 ≤ n && n < 0xDC00

/-- Whether a 16-bit unit is the second half of a character. -/
def isSecondHalf (n : Nat) : Bool := 0xDC00 ≤ n && n < 0xE000

/-- The characters of a text after its opening quote, latest first in `done`; `whole` is false once
    half a character was met. There is no result if the text does not end or holds a fault. -/
def readQuoted (fuel : Nat) (done : List Char) (whole : Bool) (cs : List Char) :
    Option (Option String × List Char) :=
  match fuel with
  | 0 => none
  | fuel + 1 =>
    match cs with
    | [] => none
    | '"' :: rest => some (if whole then some (String.ofList done.reverse) else none, rest)
    | '\\' :: 'u' :: rest =>
      match readUnit rest with
      | none => none
      | some (n, rest) =>
        if isSecondHalf n then readQuoted fuel done false rest
        else if isFirstHalf n then
          match rest with
          | '\\' :: 'u' :: more =>
            match readUnit more with
            | none => none
            | some (m, more) =>
              if isSecondHalf m then
                let c := Char.ofNat (0x10000 + (n - 0xD800) * 0x400 + (m - 0xDC00))
                readQuoted fuel (c :: done) whole more
              else readQuoted fuel done false more
          | _ => readQuoted fuel done false rest
        else readQuoted fuel (Char.ofNat n :: done) whole rest
    | '\\' :: c :: rest =>
      match escaped c with
      | some c => readQuoted fuel (c :: done) whole rest
      | none => none
    | c :: rest => if c.toNat < 0x20 then none else readQuoted fuel (c :: done) whole rest

/-- A text after its opening quote. -/
def readText (cs : List Char) : Reading Document :=
  match readQuoted (cs.length + 1) [] true cs with
  | none => fault
  | some (none, rest) => ⟨.unreadable, some rest⟩
  | some (some value, rest) => ⟨.text value, some rest⟩

/-- A number at the front. -/
def readNumeral (cs : List Char) : Reading Document :=
  match readNumber cs with
  | none => fault
  | some (.int value, rest) => ⟨.int value, some rest⟩
  | some (.real value, rest) => ⟨.real value, some rest⟩
  | some (.tooLarge, rest) => ⟨.unreadable, some rest⟩

mutual

/-- The value at the front. -/
def readValue (fuel : Nat) (cs : List Char) : Reading Document :=
  match fuel with
  | 0 => fault
  | fuel + 1 =>
    match skipBlank cs with
    | 'n' :: rest => readWord ['u', 'l', 'l'] .null rest
    | 't' :: rest => readWord ['r', 'u', 'e'] (.bool true) rest
    | 'f' :: rest => readWord ['a', 'l', 's', 'e'] (.bool false) rest
    | '"' :: rest => readText rest
    | '[' :: rest =>
      match skipBlank rest with
      | ']' :: rest => ⟨.list [] .closed, some rest⟩
      | rest => readItems fuel [] rest
    | '\x7b' :: rest =>
      match skipBlank rest with
      | '\x7d' :: rest => ⟨.object [] .closed, some rest⟩
      | rest => readFields fuel [] rest
    | c :: rest => if c = '-' || c.isDigit then readNumeral (c :: rest) else fault
    | [] => fault

/-- The items of a list from one item on, those before it latest first. -/
def readItems (fuel : Nat) (done : List Document) (cs : List Char) : Reading Document :=
  match fuel with
  | 0 => fault
  | fuel + 1 =>
    let item := readValue fuel cs
    let items := item.part :: done
    match item.rest.map skipBlank with
    | some (',' :: rest) =>
      match skipBlank rest with
      | ']' :: _ => ⟨.list items.reverse .faulty, none⟩
      | rest => readItems fuel items rest
    | some (']' :: rest) => ⟨.list items.reverse .closed, some rest⟩
    | _ => ⟨.list items.reverse .faulty, none⟩

/-- The fields of an object from one name on, those before it latest first. -/
def readFields (fuel : Nat) (done : List (Option String × Document)) (cs : List Char) :
    Reading Document :=
  match fuel with
  | 0 => fault
  | fuel + 1 =>
    match cs with
    | '"' :: rest =>
      match readQuoted (rest.length + 1) [] true rest with
      | some (name, rest) =>
        match skipBlank rest with
        | ':' :: rest =>
          let value := readValue fuel rest
          let fields := (name, value.part) :: done
          match value.rest.map skipBlank with
          | some (',' :: rest) => readFields fuel fields (skipBlank rest)
          | some ('\x7d' :: rest) => ⟨.object fields.reverse .closed, some rest⟩
          | _ => ⟨.object fields.reverse .faulty, none⟩
        | _ => ⟨.object ((name, .broken) :: done).reverse .faulty, none⟩
      | none => ⟨.object done.reverse .faulty, none⟩
    | _ => ⟨.object done.reverse .faulty, none⟩

end

/-- The first value of a text and what follows it. Each step takes a character, so the length of
    the text is fuel enough. -/
def readFirst (s : String) : Reading Document :=
  readValue (2 * s.length + 2) s.toList

/-- The first value of a text. -/
def ofText (s : String) : Document := (readFirst s).part

/-! ## 2. Soundness -/

mutual

/-- Whether there is no fault in a document. -/
def isSound : Document → Bool
  | .broken => false
  | .list items ending => ending != .faulty && itemsSound items
  | .object fields ending => ending != .faulty && fieldsSound fields
  | _ => true

/-- Whether there is no fault in the items of a list. -/
def itemsSound : List Document → Bool
  | [] => true
  | item :: items => isSound item && itemsSound items

/-- Whether there is no fault in the fields of an object. -/
def fieldsSound : List (Option String × Document) → Bool
  | [] => true
  | (_, value) :: fields => isSound value && fieldsSound fields

end

/-- The depth of nesting at which a document is refused when it is held. -/
def depthLimit : Nat := 128

mutual

/-- A document read to its end, with the ends marked as such; there is none if it holds a fault or
    something unreadable, or is nested `depth` deep. -/
def hold (depth : Nat) : Document → Option Document
  | .broken => none
  | .unreadable => none
  | .list items ending =>
    match depth with
    | 0 => none
    | 1 => none
    | depth + 1 =>
      if ending == .faulty then none else (holdItems depth items).map fun items => .list items .held
  | .object fields ending =>
    match depth with
    | 0 => none
    | 1 => none
    | depth + 1 =>
      if ending == .faulty then none
      else (holdFields depth fields).map fun fields => .object fields .held
  | .null => some .null
  | .bool value => some (.bool value)
  | .int value => some (.int value)
  | .real value => some (.real value)
  | .text value => some (.text value)

/-- The items of a list, each read to its end. -/
def holdItems (depth : Nat) : List Document → Option (List Document)
  | [] => some []
  | item :: items =>
    match hold depth item, holdItems depth items with
    | some item, some items => some (item :: items)
    | _, _ => none

/-- The fields of an object, each read to its end. -/
def holdFields (depth : Nat) :
    List (Option String × Document) → Option (List (Option String × Document))
  | [] => some []
  | (name, value) :: fields =>
    match name, hold depth value, holdFields depth fields with
    | some name, some value, some fields => some ((some name, value) :: fields)
    | _, _, _ => none

end

/-- A whole text as one document, held, with nothing but blanks after it. -/
def ofWholeText (s : String) : Option Document :=
  let reading := readFirst s
  match reading.rest.map skipBlank with
  | some [] => hold depthLimit reading.part
  | _ => none

end Document

end Bedspace.Json
