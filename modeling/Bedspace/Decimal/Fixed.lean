import Bedspace.Id
import Bedspace.Text.Number

/-!
# Decimal texts with a fixed number of places

A binary number is written with a given number of places, rounded to the nearest decimal of that
many places, a tie to the even one. The binary number is taken apart exactly, so no rounding comes
in before that one.

* `nearestEven` rounds a quotient of natural numbers (`nearestEven_le`, `le_nearestEven`: the
  result is at most half a unit away);
* `Binary.ofFloat` reads sign, significand and exponent off the bits;
* `fixed` writes; negative zero keeps its sign, what is not a number is `NaN`, and the infinities
  are `inf` and `-inf`.
-/

namespace Bedspace.Decimal

/-! ## 1. Rounding -/

/-- The natural number nearest to `num / den`, of two equally near ones the even one. -/
def nearestEven (num den : Nat) : Nat :=
  let q := num / den
  let r := num % den
  if 2 * r < den then q
  else if den < 2 * r then q + 1
  else if q % 2 = 0 then q else q + 1

/-- The rounded quotient is at most half a unit above the exact one. -/
theorem nearestEven_le {num den : Nat} (h : 0 < den) :
    2 * (nearestEven num den * den) ≤ 2 * num + den := by
  have hd : den * (num / den) + num % den = num := Nat.div_add_mod num den
  have hm : num / den * den = den * (num / den) := Nat.mul_comm _ _
  have hs : (num / den + 1) * den = den * (num / den) + den := by
    rw [Nat.add_mul, Nat.one_mul, hm]
  unfold nearestEven
  dsimp only
  split
  · rw [hm]; omega
  · split
    · rw [hs]; omega
    · split
      · rw [hm]; omega
      · rw [hs]; omega

/-- The rounded quotient is at most half a unit below the exact one. -/
theorem le_nearestEven {num den : Nat} (h : 0 < den) :
    2 * num ≤ 2 * (nearestEven num den * den) + den := by
  have hd : den * (num / den) + num % den = num := Nat.div_add_mod num den
  have hlt : num % den < den := Nat.mod_lt _ h
  have hm : num / den * den = den * (num / den) := Nat.mul_comm _ _
  have hs : (num / den + 1) * den = den * (num / den) + den := by
    rw [Nat.add_mul, Nat.one_mul, hm]
  unfold nearestEven
  dsimp only
  split
  · rw [hm]; omega
  · split
    · rw [hs]; omega
    · split
      · rw [hm]; omega
      · rw [hs]; omega

/-! ## 2. Binary numbers -/

/-- A binary floating point number taken apart. -/
inductive Binary where
  /-- The number `(-1)^negative * significand * 2^exponent`. -/
  | finite (negative : Bool) (significand : Nat) (exponent : Int)
  | infinite (negative : Bool)
  | notANumber
  deriving DecidableEq, Repr

/-- Reads a double: one bit of sign, eleven of exponent, 52 of fraction. -/
def Binary.ofFloat (x : Float) : Binary :=
  let bits := x.toBits.toNat
  let negative : Bool := bits / bitValues 63 = 1
  let biased : Nat := bits / bitValues 52 % bitValues 11
  let fraction : Nat := bits % bitValues 52
  if biased = 2047 then
    if fraction = 0 then .infinite negative else .notANumber
  else if biased = 0 then .finite negative fraction (-1074)
  else .finite negative (bitValues 52 + fraction) ((biased : Int) - 1075)

/-! ## 3. Writing -/

/-- `scaled / 10^places` as digits, a point and `places` digits. -/
def placed (places scaled : Nat) : String :=
  let digits := paddedNumber (places + 1) scaled
  let whole := digits.length - places
  String.ofList (digits.toList.take whole) ++ "." ++ String.ofList (digits.toList.drop whole)

/-- The size of a finite number in units of the last place. -/
def scaledSize (places significand : Nat) (exponent : Int) : Nat :=
  match exponent with
  | .ofNat e => significand * bitValues e * tenTo places
  | .negSucc e => nearestEven (significand * tenTo places) (bitValues (e + 1))

/-- A number with `places` digits after the point, of which there is at least one. -/
def fixed (places : Nat) (x : Float) : String :=
  match Binary.ofFloat x with
  | .notANumber => "NaN"
  | .infinite negative => if negative then "-inf" else "inf"
  | .finite negative significand exponent =>
    (if negative then "-" else "") ++ placed places (scaledSize places significand exponent)

end Bedspace.Decimal
