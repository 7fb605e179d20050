/-!
# Identifiers

Every record is named by a text, and the kind of record is part of the identifier's type:

* `Id k` is the identifier of a record of kind `k`; two kinds are never confused;
* identifiers of issued records are numbered: a stem, a dash and at least six digits
  (`Id.numbered`), so that up to the last six-digit number the order of texts is the order of
  issue;
* `Id.numbered_injective`: no two numbers of a kind give the same identifier, however many digits
  they have.
-/

namespace Bedspace

/-- The kinds of record that carry an identifier. -/
inductive Kind where
  | premises
  | room
  | bed
  | booking
  | outOfService
  | application
  | assessment
  | placementApplication
  | placementRequest
  deriving DecidableEq, Repr

/-- The identifier of a record of kind `kind`. -/
structure Id (kind : Kind) where
  text : String
  deriving DecidableEq, Repr

abbrev PremisesId := Id .premises
abbrev RoomId := Id .room
abbrev BedId := Id .bed
abbrev BookingId := Id .booking
abbrev OutOfServiceId := Id .outOfService
abbrev ApplicationId := Id .application
abbrev AssessmentId := Id .assessment
abbrev PlacementApplicationId := Id .placementApplication
abbrev PlacementRequestId := Id .placementRequest

instance {kind : Kind} : ToString (Id kind) := ⟨Id.text⟩

/-- What the identifiers issued for a kind begin with. -/
def Kind.stem : Kind → String
  | .premises => "premises"
  | .room => "room"
  | .bed => "bed"
  | .booking => "booking"
  | .outOfService => "oos"
  | .application => "application"
  | .assessment => "assessment"
  | .placementApplication => "placement-application"
  | .placementRequest => "placement-request"

/-- A number in decimal, filled up with zeros to `width` digits. -/
def paddedNumber (width n : Nat) : String :=
  String.ofList ((Nat.toDigits 10 n).leftpad width '0')

/-- The `n`th identifier issued for a kind. -/
def Id.numbered (kind : Kind) (n : Nat) : Id kind :=
  ⟨kind.stem ++ "-" ++ paddedNumber 6 n⟩

/-! ## Numbers are told apart -/

/-- Zeros in front of digits make no difference to the number that is read. -/
theorem ofDigitChars_replicate_zero (k : Nat) (digits : List Char) :
    Nat.ofDigitChars 10 (List.replicate k '0' ++ digits) 0 = Nat.ofDigitChars 10 digits 0 := by
  induction k with
  | zero => rfl
  | succ k ih =>
    rw [List.replicate_succ, List.cons_append, Nat.ofDigitChars_cons]
    exact ih

/-- A number is read back from its digits, with or without zeros in front. -/
theorem ofDigitChars_leftpad_toDigits (width n : Nat) :
    Nat.ofDigitChars 10 ((Nat.toDigits 10 n).leftpad width '0') 0 = n := by
  rw [List.leftpad, ofDigitChars_replicate_zero]
  exact Nat.ofDigitChars_toDigits (by decide) (by decide)

theorem paddedNumber_injective (width : Nat) {m n : Nat}
    (h : paddedNumber width m = paddedNumber width n) : m = n := by
  have hdigits : (Nat.toDigits 10 m).leftpad width '0' = (Nat.toDigits 10 n).leftpad width '0' :=
    String.ofList_injective h
  rw [← ofDigitChars_leftpad_toDigits width m, hdigits, ofDigitChars_leftpad_toDigits width n]

/-- **Different numbers give different identifiers.** -/
theorem Id.numbered_injective {kind : Kind} {m n : Nat}
    (h : Id.numbered kind m = Id.numbered kind n) : m = n := by
  have htext : kind.stem ++ "-" ++ paddedNumber 6 m = kind.stem ++ "-" ++ paddedNumber 6 n :=
    congrArg Id.text h
  exact paddedNumber_injective 6 ((String.append_right_inj _).1 htext)

end Bedspace
