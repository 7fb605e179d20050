/-!
# Whole numbers in text

A whole number is written with ASCII digits; a plus sign may stand in front and leading zeros may
be there. A minus sign belongs to signed numbers only, and nothing else is allowed: no blank, no
separator, no digit of another script.

* `bitValues` is how many numbers a number of bits can tell apart, `tenTo` a power of ten;
* `readNat` reads a natural number below a limit;
* `readInt` reads a number of a signed 64-bit range.
-/

namespace Bedspace

/-! ## 1. Widths -/

/-- The number of values that `width` bits have. -/
def bitValues (width : Nat) : Nat := Nat.pow 2 width

/-- A one with `places` zeros. -/
def tenTo (places : Nat) : Nat := Nat.pow 10 places

theorem bitValues_pos (width : Nat) : 0 < bitValues width := Nat.pow_pos (by decide)

namespace Text

/-! ## 2. Reading -/

/-- The value of ASCII digits read after the value `acc`; `none` at any other character. -/
def digitsFrom (acc : Nat) : List Char → Option Nat
  | [] => some acc
  | c :: cs => if c.isDigit then digitsFrom (acc * 10 + (c.toNat - '0'.toNat)) cs else none

/-- The value of one digit or more. -/
def readDigits : List Char → Option Nat
  | [] => none
  | c :: cs => digitsFrom 0 (c :: cs)

/-- The characters after one plus sign, if there is one. -/
def skipPlus : List Char → List Char
  | '+' :: cs => cs
  | cs => cs

/-- A natural number smaller than `limit`. -/
def readNat (limit : Nat) (s : String) : Option Nat :=
  (readDigits (skipPlus s.toList)).filter (· < limit)

/-- A number of the signed 64-bit range. -/
def readInt (s : String) : Option Int :=
  match s.toList with
  | '-' :: cs => ((readDigits cs).filter (· ≤ bitValues 63)).map fun n => -(n : Int)
  | cs => ((readDigits (skipPlus cs)).filter (· < bitValues 63)).map fun n => (n : Int)

/-- The first number that 32 bits do not hold. -/
def limit32 : Nat := bitValues 32

/-- The first number that 16 bits do not hold. -/
def limit16 : Nat := bitValues 16

/-- The value of a hexadecimal digit. -/
def hexDigit (c : Char) : Option Nat :=
  if c.isDigit then some (c.toNat - '0'.toNat)
  else if 'a' ≤ c && c ≤ 'f' then some (c.toNat - 'a'.toNat + 10)
  else if 'A' ≤ c && c ≤ 'F' then some (c.toNat - 'A'.toNat + 10)
  else none

end Text

end Bedspace
