import Bedspace.Calendar.DateRange

/-!
# Ranges that overlap

* `DateRange.overlaps_extendedBy_iff`: one range with more days at its end overlaps another one
  exactly if it overlaps the other one with as many more days at its start, also where the calendar
  ends;
* **`DateRange.overlaps_window`**: what overlaps a range after some days of turnaround overlaps the
  range that starts earlier by the longest turnaround.
-/

namespace Bedspace

theorem Date.eq_of_day_eq {a b : Date} (h : a.day = b.day) : a = b := by
  cases a
  cases b
  cases h
  rfl

namespace DateRange

theorem overlaps_iff {a b : DateRange} :
    a.overlaps b = true ↔ a.start.day < b.stop.day ∧ b.start.day < a.stop.day := by
  unfold overlaps
  rw [Bool.and_eq_true, decide_eq_true_eq, decide_eq_true_eq]
  exact Iff.rfl

theorem overlaps_comm (a b : DateRange) : a.overlaps b = b.overlaps a :=
  Bool.and_comm _ _

theorem day_stop_extendedBy (range : DateRange) (days : Nat) :
    (range.extendedBy days).stop.day = min (range.stop.day + days) Calendar.lastDay :=
  Date.day_later range.stop days

theorem day_start_startingEarlierBy (range : DateRange) (days : Nat) :
    (range.startingEarlierBy days).start.day = max (range.start.day - days) Calendar.firstDay :=
  Date.day_earlier range.start days

/-- Days at the end of one range are as good as days at the start of the other one. -/
theorem overlaps_extendedBy_iff {a b : DateRange} (ha : a.start < a.stop) (hb : b.start < b.stop)
    (days : Nat) :
    (a.extendedBy days).overlaps b = true ↔ a.overlaps (b.startingEarlierBy days) = true := by
  have hfirst := a.start.firstDay_le
  have hlast := b.stop.le_lastDay
  rw [Date.lt_def] at ha hb
  rw [overlaps_iff, overlaps_iff, day_stop_extendedBy, day_start_startingEarlierBy]
  show a.start.day < b.stop.day ∧ _ ↔ a.start.day < b.stop.day ∧ _
  omega

theorem overlaps_startingEarlierBy_mono {a b : DateRange} {few many : Nat} (h : few ≤ many)
    (hov : a.overlaps (b.startingEarlierBy few) = true) :
    a.overlaps (b.startingEarlierBy many) = true := by
  rw [overlaps_iff, day_start_startingEarlierBy] at hov ⊢
  obtain ⟨hstart, hstop⟩ := hov
  refine ⟨hstart, ?_⟩
  omega

/-- **A window that starts earlier by the longest turnaround misses nothing** that a shorter one
    brings into a range. -/
theorem overlaps_window {a b : DateRange} (ha : a.start < a.stop) (hb : b.start < b.stop)
    {days longest : Nat} (h : days ≤ longest) (hov : (a.extendedBy days).overlaps b = true) :
    a.overlaps (b.startingEarlierBy longest) = true :=
  overlaps_startingEarlierBy_mono h ((overlaps_extendedBy_iff ha hb days).1 hov)

theorem extendedBy_zero (range : DateRange) : range.extendedBy 0 = range := by
  have hlast := range.stop.le_lastDay
  have hstop : range.stop.later 0 = range.stop := by
    refine Date.eq_of_day_eq ?_
    rw [Date.day_later]
    omega
  unfold extendedBy
  simp only [hstop]

/-- A range spans its own dates. -/
theorem spanning_start_stop (range : DateRange) : spanning range.start range.stop = range := by
  have hle := range.start_le_stop
  have hstop : max range.stop range.start = range.stop := by
    refine Date.eq_of_day_eq ?_
    rw [Date.le_def] at hle
    rw [Date.day_max]
    omega
  unfold spanning
  simp only [hstop]

/-- What overlaps a range overlaps the range that starts earlier. -/
theorem overlaps_startingEarlierBy {a b : DateRange} (days : Nat) (h : a.overlaps b = true) :
    a.overlaps (b.startingEarlierBy days) = true := by
  rw [overlaps_iff] at h
  rw [overlaps_iff, day_start_startingEarlierBy]
  have hfirst := b.start.firstDay_le
  refine ⟨h.1, ?_⟩
  omega

/-- The nights that a start and a number of nights come to, if the calendar has them. -/
theorem ofDuration?_eq_some {start : Date} {days : Nat} {range : DateRange}
    (h : ofDuration? start days = some range) :
    range.start = start ∧ range.stop.day = start.day + days ∧ 0 < days := by
  unfold ofDuration? at h
  split at h
  · cases h
  · rename_i hdays
    split at h
    · cases h
    · rename_i stop hstop
      unfold Date.later? Date.ofDay? at hstop
      split at hstop
      · cases hstop
        unfold new at h
        split at h
        · cases h
          exact ⟨rfl, rfl, Nat.pos_of_ne_zero hdays⟩
        · cases h
      · cases hstop

end DateRange

end Bedspace
