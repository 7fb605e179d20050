import Bedspace.Proofs.Calendar.Overlaps
import Mathlib.Data.Int.Interval
import Mathlib.Data.Set.Card

/-!
# The days of a range

A range stands for the days from its start up to and without its stop, one after the other.

* `d ∈ range` says that a day is one of them;
* **`DateRange.overlapDays_eq_ncard`**: the number that `overlapDays` computes from the ends of two
  ranges is that of the days that lie in both;
* `DateRange.overlapDays_pos_iff`: two ranges that are not empty overlap exactly if there is such a
  day, and `DateRange.overlapDays_le_days`: there are no more than one of the ranges has.
-/

namespace Bedspace

theorem Date.day_injective : Function.Injective Date.day := fun _ _ => Date.eq_of_day_eq

/-- The day numbers of the calendar are those of its dates. -/
theorem Date.exists_day_eq {n : Int} (hfirst : Calendar.firstDay ≤ n) (hlast : n ≤ Calendar.lastDay) :
    ∃ d : Date, d.day = n :=
  ⟨⟨n, hfirst, hlast⟩, rfl⟩

namespace DateRange

/-- A day of a range. -/
instance : Membership Date DateRange := ⟨fun range d => range.start ≤ d ∧ d < range.stop⟩

theorem mem_iff {range : DateRange} {d : Date} :
    d ∈ range ↔ range.start.day ≤ d.day ∧ d.day < range.stop.day :=
  Iff.rfl

theorem overlapDays_def (a b : DateRange) :
    a.overlapDays b =
      max (min a.stop.day b.stop.day - max a.start.day b.start.day) 0 := by
  unfold overlapDays Date.daysUntil
  rw [Date.day_min, Date.day_max]

/-- The numbers of the days in two ranges are those from the later start up to the earlier stop. -/
theorem image_day_inter (a b : DateRange) :
    Date.day '' {d : Date | d ∈ a ∧ d ∈ b} =
      {n : Int | max a.start.day b.start.day ≤ n ∧ n < min a.stop.day b.stop.day} := by
  ext n
  rw [Set.mem_image, Set.mem_ofPred_eq, max_le_iff, lt_min_iff]
  constructor
  · rintro ⟨d, ⟨⟨ha, ha'⟩, hb, hb'⟩, rfl⟩
    exact ⟨⟨ha, hb⟩, ha', hb'⟩
  · rintro ⟨⟨ha, hb⟩, ha', hb'⟩
    have hfirst := a.start.firstDay_le
    have hlast := a.stop.le_lastDay
    obtain ⟨d, rfl⟩ := Date.exists_day_eq (n := n) (by omega) (by omega)
    exact ⟨d, ⟨⟨ha, ha'⟩, hb, hb'⟩, rfl⟩

/-- **The days that two ranges have in common are counted right.** -/
theorem overlapDays_eq_ncard (a b : DateRange) :
    a.overlapDays b = ({d : Date | d ∈ a ∧ d ∈ b} : Set Date).ncard := by
  have hico (m n : Int) : {i : Int | m ≤ i ∧ i < n} = (Finset.Ico m n : Set Int) :=
    (Finset.coe_Ico m n).symm
  rw [← Set.ncard_image_of_injective _ Date.day_injective, image_day_inter, overlapDays_def, hico,
    Set.ncard_coe_finset, Int.card_Ico, Int.toNat_eq_max]

/-- Two ranges that are not empty overlap exactly if they have a day in common. -/
theorem overlapDays_pos_iff {a b : DateRange} (ha : a.start < a.stop) (hb : b.start < b.stop) :
    0 < a.overlapDays b ↔ a.overlaps b = true := by
  rw [Date.lt_def] at ha hb
  rw [overlaps_iff, overlapDays_def]
  omega

/-- Two ranges have no more days in common than one of them has. -/
theorem overlapDays_le_days (a b : DateRange) : a.overlapDays b ≤ b.days := by
  have hb := b.start_le_stop
  rw [Date.le_def] at hb
  rw [overlapDays_def]
  unfold days Date.daysUntil
  omega

end DateRange

end Bedspace
