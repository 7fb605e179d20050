import Bedspace.Csv.Record

/-!
# Rows with named columns

The first record of a file names its columns and every further one is a row of values. Names and
values are texts in UTF-8, without blanks at their ends.

* `rows` lists the rows of a file, or what is wrong with one, in order (`Fault`): a row has to
  have as many fields as the first record and be valid UTF-8;
* `Row.select` takes the values of given columns out of a row. A column may be wanted once only,
  and the first required one that is missing is reported. Columns nobody asked for are ignored;
* where the first record is not valid UTF-8 there are no names, and values are taken by position.
-/

namespace Bedspace.Csv

open Text

/-- What keeps a row from giving the values of its columns. -/
inductive SelectFault where
  | missing (column : String)
  | repeated (column : String)
  | tooShort (found : Nat) (shape : String) (wanted : Nat)
  deriving DecidableEq, Repr

/-- What is wrong with a row. -/
inductive Fault where
  | unequalLengths (position : Position) (found expected : Nat)
  | notUtf8 (position : Position) (field validUpTo : Nat)
  | select (position : Position) (fault : SelectFault)
  deriving DecidableEq, Repr

/-- The wording of a fault in the columns of a row. -/
def SelectFault.message : SelectFault → String
  | .missing column => "missing field " ++ "`" ++ column ++ "`"
  | .repeated column => "duplicate field " ++ "`" ++ column ++ "`"
  | .tooShort found shape wanted =>
    "invalid length " ++ toString found ++ ", expected struct " ++ shape ++ " with "
      ++ toString wanted ++ " elements"

/-- The wording of a fault. -/
def Fault.message : Fault → String
  | .unequalLengths p found expected =>
    "CSV error: record " ++ toString p.record ++ " (line: " ++ toString p.line ++ ", byte: "
      ++ toString p.byte ++ "): found record with " ++ toString found
      ++ " fields, but the previous record has " ++ toString expected ++ " fields"
  | .notUtf8 p field validUpTo =>
    "CSV parse error: record " ++ toString p.record ++ " (line " ++ toString p.line
      ++ ", field: " ++ toString field ++ ", byte: " ++ toString p.byte
      ++ "): invalid utf-8: invalid UTF-8 in field " ++ toString field ++ " near byte index "
      ++ toString validUpTo
  | .select p fault =>
    "CSV deserialize error: record " ++ toString p.record ++ " (line: " ++ toString p.line
      ++ ", byte: " ++ toString p.byte ++ "): " ++ fault.message

/-- The values of a row, where it begins and what its columns are called, if they have names. -/
structure Row where
  position : Position
  names : Option (List String)
  values : List String

/-! ## 1. Rows of a file -/

/-- The fields as texts; at a fault the number of the field and of the bytes in order before it. -/
def decodeFields (number : Nat) : List (List UInt8) → Except (Nat × Nat) (List String)
  | [] => .ok []
  | field :: fields =>
    match Utf8.decode field with
    | .error validUpTo => .error (number, validUpTo)
    | .ok value => (decodeFields (number + 1) fields).map (trim value :: ·)

/-- A record as a row below a first record of `expected` fields. -/
def rowOf (expected : Nat) (names : Option (List String)) (record : Record) : Except Fault Row :=
  if record.fields.length ≠ expected then
    .error (.unequalLengths record.position record.fields.length expected)
  else
    match decodeFields 0 (record.fields.map trimBytes) with
    | .error (field, validUpTo) => .error (.notUtf8 record.position field validUpTo)
    | .ok values => .ok ⟨record.position, names, values⟩

/-- The rows of a file. -/
def rows (input : List UInt8) : List (Except Fault Row) :=
  match records input with
  | [] => []
  | head :: rest => rest.map (rowOf head.fields.length (decodeFields 0 head.fields).toOption)

/-! ## 2. Columns of a row -/

/-- A column that is asked for. -/
structure Column where
  name : String
  required : Bool
  deriving DecidableEq, Repr

/-- The first wanted name that stands twice among the names of the columns. -/
def firstRepeated (wanted : List String) : List String → List String → Option String
  | _, [] => none
  | seen, name :: names =>
    if wanted.contains name then
      if seen.contains name then some name else firstRepeated wanted (name :: seen) names
    else firstRepeated wanted seen names

/-- The values of the columns looked up by name. -/
def selectNamed (cells : List (String × String)) :
    List Column → Except SelectFault (List (Option String))
  | [] => .ok []
  | column :: columns =>
    let value := cells.lookup column.name
    if column.required && value.isNone then .error (.missing column.name)
    else (selectNamed cells columns).map (value :: ·)

/-- The values of the columns taken one after the other. -/
def selectNext (shape : String) (wanted found : Nat) :
    List String → List Column → Except SelectFault (List (Option String))
  | _, [] => .ok []
  | [], column :: columns =>
    if column.required then .error (.tooShort found shape wanted)
    else (selectNext shape wanted (found + 1) [] columns).map (none :: ·)
  | value :: values, _ :: columns =>
    (selectNext shape wanted (found + 1) values columns).map (some value :: ·)

/-- The values of the wanted columns, in the order in which they are wanted. -/
def Row.select (row : Row) (shape : String) (columns : List Column) :
    Except Fault (List (Option String)) :=
  let result :=
    match row.names with
    | none => selectNext shape columns.length 0 row.values columns
    | some names =>
      match firstRepeated (columns.map Column.name) [] names with
      | some name => .error (.repeated name)
      | none => selectNamed (names.zip row.values) columns
  result.mapError (.select row.position)

end Bedspace.Csv
