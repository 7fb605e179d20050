import Bedspace.Decimal.Read

/-!
# JSON numbers

A JSON number is a minus sign or none, digits without a leading zero, and after them a point with
digits or an exponent or both. It denotes

* a whole number, when it is written without point and exponent and 64 bits hold it;
* otherwise a double: the leading digits that 64 bits hold, rounded to a double, times or divided
  by the double nearest to the power of ten. A number too large for that has no value.
-/

namespace Bedspace.Json

open Text Decimal

/-- What a number denotes. -/
inductive Number where
  | int (value : Int)
  | real (value : Float)
  /-- Too large for a double. -/
  | tooLarge

/-- Digits read so far: the value of those that 64 bits hold and the power of ten that goes with
    it; once a digit did not fit, the others of its row are dropped. -/
structure Digits where
  value : Nat
  exponent : Int
  full : Bool

/-- The first number that 64 bits do not hold. -/
def limit64 : Nat := bitValues 64

/-- One more digit, worth `10^weight` of the digit before it: before the point a dropped digit
    raises the power of ten, after the point a digit that is kept lowers it. -/
def Digits.push (digits : Digits) (c : Char) (afterPoint : Bool) : Digits :=
  let next := digits.value * 10 + (c.toNat - '0'.toNat)
  if digits.full || limit64 ≤ next then
    { digits with
      full := true
      exponent := if afterPoint then digits.exponent else digits.exponent + 1 }
  else
    { digits with
      value := next
      exponent := if afterPoint then digits.exponent - 1 else digits.exponent }

/-- The digits before the point. -/
def Digits.ofWhole (whole : List Char) : Digits :=
  whole.foldl (fun digits c => digits.push c false) ⟨0, 0, false⟩

/-- The digits before the point and after it. -/
def Digits.ofFraction (whole : Digits) (fraction : List Char) : Digits :=
  fraction.foldl (fun digits c => digits.push c true) { whole with full := false }

/-- The powers of ten that are doubles of their own are those up to this one. -/
def lastPower : Nat := 308

/-- Divides by `10^308` as long as the exponent is below -308 and something is left. -/
def scaleDown (steps : Nat) (x : Float) (exponent : Int) : Float × Int :=
  match steps with
  | 0 => (x, exponent)
  | steps + 1 =>
    if exponent < -lastPower && x != 0.0 then
      scaleDown steps (x / ofDecimal 1 lastPower) (exponent + lastPower)
    else (x, exponent)

/-- `significand * 10^exponent`, in the two roundings described above. -/
def scale (significand : Nat) (exponent : Int) : Number :=
  let x := Float.ofNat significand
  let (x, exponent) := scaleDown 3 x exponent
  if exponent < -lastPower then .real (if x == 0.0 then x else 0.0)
  else if exponent < 0 then .real (x / ofDecimal 1 exponent.natAbs)
  else if exponent ≤ lastPower then
    let y := x * ofDecimal 1 exponent
    if y.isInf then .tooLarge else .real y
  else if x == 0.0 then .real x
  else .tooLarge

/-- The number with the opposite sign. -/
def Number.negate : Number → Number
  | .int value => .int (-value)
  | .real value => .real (-value)
  | .tooLarge => .tooLarge

/-- A number written without point and exponent. Minus zero is a double. -/
def wholeNumber (negative : Bool) (whole : List Char) : Number :=
  let digits := Digits.ofWhole whole
  if digits.full then
    let size := scale digits.value digits.exponent
    if negative then size.negate else size
  else if !negative then .int digits.value
  else if digits.value = 0 || bitValues 63 < digits.value then .real (-(Float.ofNat digits.value))
  else .int (-(digits.value : Int))

/-- A number with a fraction or an exponent. -/
def decimalNumber (negative : Bool) (whole fraction : List Char) (exponent : Int) : Number :=
  let digits := (Digits.ofWhole whole).ofFraction fraction
  let size := scale digits.value (digits.exponent + exponent)
  if negative then size.negate else size

/-- An exponent after its `e`: a sign or none and one digit or more. -/
def readPower (cs : List Char) : Option (Int × List Char) :=
  let (negative, cs) :=
    match cs with
    | '-' :: cs => (true, cs)
    | '+' :: cs => (false, cs)
    | _ => (false, cs)
  match spanDigits cs with
  | ([], _) => none
  | (digits, rest) =>
    (readDigits digits).map fun n => (if negative then -(n : Int) else (n : Int), rest)

/-- The rest of a number after its whole part and its fraction. -/
def readAfterFraction (negative : Bool) (whole : List Char) (fraction : Option (List Char))
    (cs : List Char) : Option (Number × List Char) :=
  match cs with
  | 'e' :: rest | 'E' :: rest =>
    (readPower rest).map fun (power, rest) =>
      (decimalNumber negative whole (fraction.getD []) power, rest)
  | _ =>
    match fraction with
    | none => some (wholeNumber negative whole, cs)
    | some fraction => some (decimalNumber negative whole fraction 0, cs)

/-- A number at the front, and what follows it. -/
def readNumber (cs : List Char) : Option (Number × List Char) :=
  let (negative, cs) :=
    match cs with
    | '-' :: cs => (true, cs)
    | _ => (false, cs)
  match spanDigits cs with
  | ([], _) => none
  | ('0' :: _ :: _, _) => none
  | (whole, '.' :: rest) =>
    match spanDigits rest with
    | ([], _) => none
    | (fraction, rest) => readAfterFraction negative whole (some fraction) rest
  | (whole, rest) => readAfterFraction negative whole none rest

end Bedspace.Json
