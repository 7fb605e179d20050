import Bedspace.Calendar.DateText
import Bedspace.Id
import Bedspace.Json.Document
import Bedspace.Table

/-!
# Taking documents apart

A decoder turns a document into a value of the domain or says what is wrong (`DecodeFault`): the
text is *malformed*, or it is JSON of another shape (*mismatched*). Of several faults the first one
in the order of the text is reported.

* the plain decoders take texts, numbers, dates, words and lists;
* a `Shape` describes a record by its fields. A record is written as an object, in which unknown
  fields are skipped and known ones come once, or as a list of its fields in their order. Fields
  with a fallback may be left out;
* `tagged` decodes records of several kinds, told apart by the value of one field.
-/

namespace Bedspace.Json

/-- What keeps a document from being a value. -/
inductive DecodeFault where
  | malformed
  | mismatched
  deriving DecidableEq, Repr

/-- A reading of documents as values. -/
abbrev Decoder (α : Type) := Document → Except DecodeFault α

namespace Decoder

/-! ## 1. Plain values -/

/-- The fault of a document that is not what was expected. -/
def refuse {α : Type} : Decoder α
  | .broken => .error .malformed
  | .unreadable => .error .malformed
  | _ => .error .mismatched

/-- A text. -/
def text : Decoder String
  | .text value => .ok value
  | doc => refuse doc

/-- An identifier. -/
def id {kind : Kind} : Decoder (Id kind) := fun doc => (text doc).map Id.mk

/-- A whole number between two bounds. -/
def int (low high : Int) : Decoder Int
  | .int value => if low ≤ value ∧ value ≤ high then .ok value else .error .mismatched
  | doc => refuse doc

/-- A natural number that 32 bits hold. -/
def nat32 : Decoder Nat := fun doc => (int 0 ((bitValues 32 : Int) - 1) doc).map Int.toNat

/-- A number that 64 bits hold with its sign. -/
def int64 : Decoder Int := int (-(bitValues 63 : Int)) ((bitValues 63 : Int) - 1)

/-- A number, whole or not. -/
def real : Decoder Float
  | .int value => .ok (Float.ofInt value)
  | .real value => .ok value
  | doc => refuse doc

/-- Yes or no. -/
def bool : Decoder Bool
  | .bool value => .ok value
  | doc => refuse doc

/-- A text that a function understands. -/
def parsed {α : Type} (parse : String → Option α) : Decoder α := fun doc => do
  match parse (← text doc) with
  | some a => pure a
  | none => throw .mismatched

/-- A date. -/
def date : Decoder Date := parsed fun s => (Date.read .spaced s).toOption

/-- A value, or `null`. -/
def nullable {α : Type} (decode : Decoder α) : Decoder (Option α)
  | .null => .ok none
  | doc => (decode doc).map some

/-- One of some words, as a text or as an object whose only field has that name and holds
    `null`. Anything else counts as malformed. -/
def word {α : Type} (parse : String → Option α) : Decoder α
  | .text value => (parse value).elim (.error .mismatched) .ok
  | .object [] _ => .error .malformed
  | .object ((none, _) :: _) _ => .error .malformed
  | .object ((some name, value) :: others) ending =>
    match parse name, value, others, ending with
    | none, _, _, _ => .error .mismatched
    | some _, .broken, _, _ => .error .malformed
    | some a, .null, [], .closed => .ok a
    | some a, .null, [], .held => .ok a
    | some _, .null, _, _ => .error .malformed
    | some _, value, _, _ => refuse value
  | _ => .error .malformed

/-- The values of the items of a list. -/
def items {α : Type} (decode : Decoder α) : List Document → Except DecodeFault (List α)
  | [] => .ok []
  | doc :: docs => do
    let a ← decode doc
    let as ← items decode docs
    pure (a :: as)

/-- A list of values. -/
def list {α : Type} (decode : Decoder α) : Decoder (List α)
  | .list docs ending => do
    let as ← items decode docs
    if ending = .faulty then throw .malformed else pure as
  | doc => refuse doc

/-- A set of texts. -/
def textSet : Decoder TextSet := fun doc => (list text doc).map Table.ofList

end Decoder

/-! ## 2. Records -/

/-- A field of a record: its name, whether it has to be there, and what is wrong with a value. -/
structure Field where
  name : String
  required : Bool
  check : Document → Except DecodeFault Unit

/-- A record by its fields; `build` makes it from their values, in order. -/
structure Shape (α : Type) where
  fields : List Field
  build : List (Option Document) → Except DecodeFault α

namespace Shape

/-- The record without fields. -/
protected def pure {α : Type} (a : α) : Shape α := ⟨[], fun _ => .ok a⟩

/-- A function of one record applied to another one, whose fields come after. -/
protected def seq {α β : Type} (f : Shape (α → β)) (a : Shape α) : Shape β :=
  ⟨f.fields ++ a.fields, fun values => do
    let g ← f.build (values.take f.fields.length)
    let x ← a.build (values.drop f.fields.length)
    pure (g x)⟩

instance : Applicative Shape where
  pure := Shape.pure
  seq f a := Shape.seq f (a ())

/-- A field that has to be there. -/
def required {α : Type} (name : String) (decode : Decoder α) : Shape α :=
  ⟨[⟨name, true, fun doc => (decode doc).map fun _ => ()⟩], fun values =>
    match values with
    | some doc :: _ => decode doc
    | _ => .error .mismatched⟩

/-- A field that may be left out. -/
def withFallback {α : Type} (name : String) (decode : Decoder α) (fallback : α) : Shape α :=
  ⟨[⟨name, false, fun doc => (decode doc).map fun _ => ()⟩], fun values =>
    match values with
    | some doc :: _ => decode doc
    | _ => .ok fallback⟩

/-- A field that may be left out or be `null`. -/
def optional {α : Type} (name : String) (decode : Decoder α) : Shape (Option α) :=
  withFallback name (.nullable decode) none

/-- Checks the fields of an object from left to right; `seen` are the known ones before them. -/
def checkObject (fields : List Field) (seen : List String) :
    List (Option String × Document) → Except DecodeFault Unit
  | [] => .ok ()
  | (none, _) :: _ => .error .malformed
  | (some name, value) :: rest =>
    match fields.find? fun field => field.name = name with
    | some field =>
      if seen.contains name then .error .mismatched
      else do
        field.check value
        checkObject fields (name :: seen) rest
    | none => if value.isSound then checkObject fields seen rest else .error .malformed

/-- Pairs the fields with the items of a list, checking each; what is left over comes second. -/
def checkList : List Field → List Document → Ending →
    Except DecodeFault (List (Option Document) × List Document)
  | [], docs, _ => .ok ([], docs)
  | field :: fields, [], ending =>
    if ending = .faulty then .error .malformed
    else if field.required then .error .mismatched
    else do
      let (values, rest) ← checkList fields [] ending
      pure (none :: values, rest)
  | field :: fields, doc :: docs, ending => do
    field.check doc
    let (values, rest) ← checkList fields docs ending
    pure (some doc :: values, rest)

/-- The values of the fields of a record, in their order. -/
def values (fields : List Field) : Decoder (List (Option Document))
  | .object entries ending => do
    checkObject fields [] entries
    if ending = .faulty then throw .malformed
    let values := fields.map fun field => entries.lookup (some field.name)
    if (fields.zip values).any fun (field, value) => field.required && value.isNone then
      throw .mismatched
    pure values
  | .list docs ending => do
    let (values, rest) ← checkList fields docs ending
    match ending with
    | .faulty => throw .malformed
    | .closed => if rest.isEmpty then pure values else throw .malformed
    | .held => if rest.isEmpty then pure values else throw .mismatched
  | doc => Decoder.refuse doc

/-- A record of a shape. -/
def decoder {α : Type} (shape : Shape α) : Decoder α := fun doc => do
  shape.build (← values shape.fields doc)

end Shape

/-! ## 3. Records of several kinds -/

/-- The tag of an object and its other fields held, met from left to right. -/
def splitTag {α : Type} (tag : String) (parse : String → Option α) (found : Option α) :
    List (Option String × Document) →
      Except DecodeFault (Option α × List (Option String × Document))
  | [] => .ok (found, [])
  | (none, _) :: _ => .error .malformed
  | (some name, value) :: rest =>
    if name = tag then
      if found.isSome then .error .mismatched
      else do
        let a ← Decoder.parsed parse value
        splitTag tag parse (some a) rest
    else
      match value.hold (Document.depthLimit - 1) with
      | none => .error .malformed
      | some value => do
        let (found, others) ← splitTag tag parse found rest
        pure (found, (some name, value) :: others)

/-- A record whose kind is told by a field `tag`, or by the first item of a list. It is read to its
    end before its other fields are looked at. -/
def tagged {κ α : Type} (tag : String) (parse : String → Option κ) (decode : κ → Decoder α) :
    Decoder α
  | .object fields ending => do
    let (found, others) ← splitTag tag parse none fields
    if ending = .faulty then throw .malformed
    match found with
    | none => throw .mismatched
    | some kind => decode kind (.object others .held)
  | .list [] ending => .error (if ending = .faulty then .malformed else .mismatched)
  | .list (first :: rest) ending => do
    let kind ← Decoder.parsed parse first
    match (Document.list rest ending).hold Document.depthLimit with
    | none => throw .malformed
    | some held => decode kind held
  | doc => Decoder.refuse doc

end Bedspace.Json
