import Bedspace.Text.Number

/-!
# Decimal numbers in text

A decimal number is an optional sign, digits with at most one point among, before or after them,
and an optional exponent; or one of the words `inf`, `infinity` and `nan` in any case. It denotes
the double nearest to it.

* `ofDecimal` is the double nearest to `mantissa * 10^exponent`;
* `readFloat` reads a whole text; blanks, separators and other digits are refused.
-/

namespace Bedspace.Decimal

open Text

/-! ## 1. The nearest double -/

/-- The number of decimal digits. -/
def digitCount (n : Nat) : Nat := (Nat.toDigits 10 n).length

/-- The double nearest to `mantissa * 10^exponent`. What is surely past the largest double or
    below half the smallest one is decided by the number of digits alone. -/
def ofDecimal (mantissa : Nat) (exponent : Int) : Float :=
  let magnitude := (digitCount mantissa : Int) + exponent
  if mantissa = 0 then 0.0
  else if magnitude > 310 then 1.0 / 0.0
  else if magnitude < -330 then 0.0
  else
    match exponent with
    | .ofNat e => Float.ofScientific mantissa false e
    | .negSucc e => Float.ofScientific mantissa true (e + 1)

/-! ## 2. Reading -/

/-- Digits in front, and what follows them. -/
def spanDigits (cs : List Char) : List Char × List Char := cs.span Char.isDigit

/-- An exponent: `e` or `E`, an optional sign and one digit or more; nothing stands for zero. -/
def readExponent : List Char → Option Int
  | [] => some 0
  | c :: cs =>
    if c = 'e' ∨ c = 'E' then
      match cs with
      | '-' :: digits => (readDigits digits).map fun n => -(n : Int)
      | _ => (readDigits (skipPlus cs)).map fun n => (n : Int)
    else none

/-- A number without a sign. -/
def readUnsigned (cs : List Char) : Option Float :=
  let (whole, rest) := spanDigits cs
  let (fraction, rest) :=
    match rest with
    | '.' :: rest => spanDigits rest
    | _ => ([], rest)
  match readDigits (whole ++ fraction), readExponent rest with
  | some mantissa, some exponent => some (ofDecimal mantissa (exponent - fraction.length))
  | _, _ => none

/-- One of the words for a number without digits. -/
def readWord (cs : List Char) : Option Float :=
  match String.ofList (cs.map Char.toLower) with
  | "inf" => some (1.0 / 0.0)
  | "infinity" => some (1.0 / 0.0)
  | "nan" => some (0.0 / 0.0)
  | _ => none

/-- A number or a word without a sign. -/
def readSize (cs : List Char) : Option Float :=
  match readWord cs with
  | some x => some x
  | none => readUnsigned cs

/-- A whole text as a decimal number. -/
def readFloat (s : String) : Option Float :=
  match s.toList with
  | '-' :: cs => (readSize cs).map fun x => -x
  | cs => readSize (skipPlus cs)

end Bedspace.Decimal
