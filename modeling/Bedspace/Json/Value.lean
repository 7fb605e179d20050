import Bedspace.Decimal.Fixed

/-!
# JSON values and how they are written

* `Json` is a JSON value; whole numbers and decimal numbers are kept apart, and an object keeps the
  order of its fields;
* `Json.render` writes a value without blanks and with ASCII characters only: every other character
  is written as one or two escapes of four hexadecimal digits.
-/

namespace Bedspace

/-- A JSON value. -/
inductive Json where
  | null
  | bool (value : Bool)
  | int (value : Int)
  | real (value : Float)
  | text (value : String)
  | list (items : List Json)
  | object (fields : List (String × Json))

namespace Json

/-- A natural number as a value. -/
def nat (n : Nat) : Json := .int n

/-- A value or `null`. -/
def optional {α : Type} (encode : α → Json) : Option α → Json
  | none => .null
  | some a => encode a

/-- A list of values. -/
def listOf {α : Type} (encode : α → Json) (items : List α) : Json := .list (items.map encode)

/-- The fields of an object; other values have none. -/
def fields : Json → List (String × Json)
  | .object fields => fields
  | _ => []

/-! ## 1. Writing -/

/-- Four hexadecimal digits of a number, after `\u`. -/
def escapeUnit (n : Nat) : String :=
  "\\u" ++ String.ofList ((Nat.toDigits 16 n).leftpad 4 '0')

/-- A character outside ASCII, as one escape or as two that stand for the halves of its number. -/
def escapeWide (c : Char) : String :=
  let n := c.toNat
  if n < 0x10000 then escapeUnit n
  else escapeUnit (0xD800 + (n - 0x10000) / 0x400) ++ escapeUnit (0xDC00 + (n - 0x10000) % 0x400)

/-- A character inside a quoted text. -/
def escapeChar (c : Char) : String :=
  if c = '"' then "\\\""
  else if c = '\\' then "\\\\"
  else if c.toNat < 0x20 || 0x7F ≤ c.toNat then escapeWide c
  else c.toString

/-- A quoted text. -/
def quoted (s : String) : String :=
  "\"" ++ String.join (s.toList.map escapeChar) ++ "\""

mutual

/-- A value as text. A decimal number has six places. -/
def render : Json → String
  | .null => "null"
  | .bool value => if value then "true" else "false"
  | .int value => toString value
  | .real value => Decimal.fixed 6 value
  | .text value => quoted value
  | .list items => "[" ++ ",".intercalate (renderItems items) ++ "]"
  | .object fields => "\x7b" ++ ",".intercalate (renderFields fields) ++ "\x7d"

/-- The texts of the items of a list. -/
def renderItems : List Json → List String
  | [] => []
  | item :: items => render item :: renderItems items

/-- The texts of the fields of an object. -/
def renderFields : List (String × Json) → List String
  | [] => []
  | (name, value) :: fields => (quoted name ++ ":" ++ render value) :: renderFields fields

end

end Json

end Bedspace
