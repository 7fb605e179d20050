import Bedspace.Calendar.Date
import Bedspace.Id
import Bedspace.Text.Blank
import Bedspace.Text.Number

/-!
# Dates in text

A date is written year, dash, month, dash, day.

* `Date.text` writes it: month and day with two digits, the year with four, and a year outside 0
  to 9999 with its sign;
* `Date.read` reads it. Blanks may stand in front of each number. Without a sign a year has at
  most four digits, with one it has any number; month and day have one or two. In the *spaced*
  form blanks may also stand before each dash and at the end;
* of several faults the first one from the left is reported, a month or day out of its bounds as
  soon as it is read, and a day that its month does not have only after the end is reached
  (`DateFault`).
-/

namespace Bedspace

/-- What is wrong with a text that should be a date. -/
inductive DateFault where
  | outOfRange
  | invalid
  | tooShort
  | trailing
  deriving DecidableEq, Repr

/-- The wording of a fault. -/
def DateFault.message : DateFault → String
  | .outOfRange => "input is out of range"
  | .invalid => "input contains invalid characters"
  | .tooShort => "premature end of input"
  | .trailing => "trailing input"

/-- Whether blanks are allowed before the dashes and at the end. -/
inductive DateForm where
  | spaced
  | tight
  deriving DecidableEq, Repr

namespace Date

open Text

/-! ## 1. Writing -/

/-- A year: four digits, or a sign and at least four digits outside 0 to 9999. -/
def yearText (year : Int) : String :=
  if 0 ≤ year ∧ year ≤ 9999 then paddedNumber 4 year.toNat
  else (if year < 0 then "-" else "+") ++ paddedNumber 4 year.natAbs

/-- A date as year, month and day of the month. -/
def text (d : Date) : String :=
  let c := d.civil
  yearText c.year ++ "-" ++ paddedNumber 2 c.month ++ "-" ++ paddedNumber 2 c.day

instance : ToString Date := ⟨text⟩

/-! ## 2. Reading -/

/-- The digits in front, at most `width` of them if a width is given, and what follows. -/
def spanDigits : Option Nat → List Char → List Char × List Char
  | some 0, cs => ([], cs)
  | _, [] => ([], [])
  | width, c :: cs =>
    if c.isDigit then
      let (digits, rest) := spanDigits (width.map (· - 1)) cs
      (c :: digits, rest)
    else ([], c :: cs)

/-- The value of a row of digits. -/
def digitsValue (digits : List Char) : Nat :=
  digits.foldl (fun acc c => acc * 10 + (c.toNat - '0'.toNat)) 0

/-- One digit or more, and what follows them. -/
def readNumber (width : Option Nat) (cs : List Char) : Except DateFault (Nat × List Char) :=
  match cs with
  | [] => .error .tooShort
  | _ =>
    match spanDigits width cs with
    | ([], _) => .error .invalid
    | (digits, rest) => .ok (digitsValue digits, rest)

/-- Whether 32 bits hold a year with its sign. -/
def isYear (year : Int) : Bool := -(bitValues 31 : Int) ≤ year && year < (bitValues 31 : Int)

/-- A year, with the numbers that 32 bits do not hold refused at once. -/
def readYear (cs : List Char) : Except DateFault (Int × List Char) := do
  let (year, rest) ←
    match trimStart cs with
    | '-' :: cs => do
      let (n, rest) ← readNumber none cs
      pure (-(n : Int), rest)
    | '+' :: cs => do
      let (n, rest) ← readNumber none cs
      pure ((n : Int), rest)
    | cs => do
      let (n, rest) ← readNumber (some 4) cs
      pure ((n : Int), rest)
  if isYear year then pure (year, rest) else throw .outOfRange

/-- A month or a day of at most two digits, between 1 and `top`. -/
def readPart (top : Nat) (cs : List Char) : Except DateFault (Nat × List Char) := do
  let (n, rest) ← readNumber (some 2) (trimStart cs)
  if 1 ≤ n ∧ n ≤ top then pure (n, rest) else throw .outOfRange

/-- Blanks, where the form allows them. -/
def skipGap (form : DateForm) (cs : List Char) : List Char :=
  match form with
  | .spaced => trimStart cs
  | .tight => cs

/-- The dash between two parts. -/
def skipDash (form : DateForm) (cs : List Char) : Except DateFault (List Char) :=
  match skipGap form cs with
  | [] => .error .tooShort
  | '-' :: rest => .ok rest
  | _ :: _ => .error .invalid

/-- Reads a whole text as a date. -/
def read (form : DateForm) (s : String) : Except DateFault Date := do
  let (year, rest) ← readYear s.toList
  let rest ← skipDash form rest
  let (month, rest) ← readPart 12 rest
  let rest ← skipDash form rest
  let (day, rest) ← readPart 31 rest
  match skipGap form rest with
  | _ :: _ => throw .trailing
  | [] =>
    match ofCivil? year month day with
    | some d => pure d
    | none => throw .outOfRange

end Date

end Bedspace
