/-!
# Listings by several texts

A listing is often ordered by one text, and where that is the same by a second one, and so on.

* `precedes` says whether one row of texts comes before another one or level with it
  (`precedes_total`, `precedes_trans`);
* that is the order of rows as lists, `Precedes` (`precedes_iff`).
-/

namespace Bedspace.Text

/-- Whether a row of texts comes before another one, or level with it: the first place in which
    they differ decides. -/
def precedes : List String → List String → Bool
  | [], _ => true
  | _ :: _, [] => false
  | a :: as, b :: bs => a < b || (a = b && precedes as bs)

/-- Of two rows one comes before the other or level with it. -/
theorem precedes_total : ∀ as bs : List String, precedes as bs || precedes bs as
  | [], _ => by simp [precedes]
  | _ :: _, [] => by simp [precedes]
  | a :: as, b :: bs => by
    have ih := precedes_total as bs
    rcases String.le_total (a := a) (b := b) with h | h
    · by_cases hab : a = b
      · simpa [precedes, hab, String.lt_irrefl] using ih
      · have hlt : a < b := String.not_le.1 fun hba => hab (String.le_antisymm h hba)
        simp [precedes, hlt]
    · by_cases hab : a = b
      · simpa [precedes, hab, String.lt_irrefl] using ih
      · have hlt : b < a := String.not_le.1 fun hba => hab (String.le_antisymm hba h)
        simp [precedes, hlt]

/-- What comes before a row comes before what that row comes before. -/
theorem precedes_trans : ∀ {as bs cs : List String},
    precedes as bs → precedes bs cs → precedes as cs
  | [], _, _, _, _ => by simp [precedes]
  | _ :: _, [], _, h, _ => by simp [precedes] at h
  | _ :: _, _ :: _, [], _, h => by simp [precedes] at h
  | a :: as, b :: bs, c :: cs, hab, hbc => by
    simp only [precedes, Bool.or_eq_true, Bool.and_eq_true, decide_eq_true_eq] at hab hbc ⊢
    rcases hab with hab | ⟨rfl, hab⟩
    · rcases hbc with hbc | ⟨rfl, _⟩
      · exact .inl (String.lt_trans hab hbc)
      · exact .inl hab
    · rcases hbc with hbc | ⟨rfl, hbc⟩
      · exact .inl hbc
      · exact .inr ⟨rfl, precedes_trans hab hbc⟩

/-- A row of texts is the same as another one or comes before it in the order of lists. -/
def Precedes (as bs : List String) : Prop := as = bs ∨ List.Lex (· < ·) as bs

theorem precedes_iff : ∀ {as bs : List String}, precedes as bs = true ↔ Precedes as bs
  | [], [] => iff_of_true rfl (.inl rfl)
  | [], _ :: _ => iff_of_true rfl (.inr .nil)
  | _ :: _, [] => iff_of_false Bool.false_ne_true fun h => by
    rcases h with h | h
    · cases h
    · cases h
  | a :: as, b :: bs => by
    have ih := @precedes_iff as bs
    rw [precedes, Bool.or_eq_true, Bool.and_eq_true, decide_eq_true_eq, decide_eq_true_eq, ih]
    constructor
    · rintro (h | ⟨rfl, rfl | h⟩)
      · exact .inr (.rel h)
      · exact .inl rfl
      · exact .inr (.cons h)
    · rintro (h | h)
      · cases h
        exact .inr ⟨rfl, .inl rfl⟩
      · cases h with
        | rel h => exact .inl h
        | cons h => exact .inr ⟨rfl, .inr h⟩

end Bedspace.Text
