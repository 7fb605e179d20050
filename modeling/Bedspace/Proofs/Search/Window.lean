import Bedspace.Proofs.Calendar.Days
import Bedspace.Proofs.Search.TemporaryAccommodation

/-!
# The window of a search

A booking holds its bed for some days after its departure, and a search reads bookings through a
window that starts as many days before its own range. Both shifts stop where the calendar ends, and
they still come to the same there.

* `DateRange.Made` is a range that two dates bound, or a date and a number of nights; it has days
  (`DateRange.made_iff`), and there is one for each number of nights that the calendar has
  (`DateRange.exists_ofDuration?_iff`);
* `DateRange.Compared` says how two ranges stand to each other, `DateRange.Widens` what it means that
  one is the other one with more days;
* **`DateRange.made_laws`**: this holds of all ranges that are made and of all shifts, and a window that
  starts earlier by the longest turnaround of an estate misses no booking that the turnaround of any
  premises brings into the range.
-/

namespace Bedspace

namespace DateRange

open Calendar

/-! ## 1. Ranges that are made -/

/-- **A range that was made**, from two dates in order or from a date and a number of nights. -/
inductive Made : DateRange → Prop where
  | ofDates {start stop : Date} {range : DateRange} (h : new start stop = .ok range) : Made range
  | ofNights {start : Date} {days : Nat} {range : DateRange}
      (h : ofDuration? start days = some range) : Made range

theorem new_eq_ok_iff {start stop : Date} {range : DateRange} :
    new start stop = .ok range ↔ start < stop ∧ range.start = start ∧ range.stop = stop := by
  unfold new
  constructor
  · intro h
    split at h
    · rename_i horder
      cases h
      exact ⟨horder, rfl, rfl⟩
    · cases h
  · rintro ⟨horder, rfl, rfl⟩
    rw [dif_pos horder]

/-- A number of nights has a range exactly if there are any and the calendar has the day after the
    last one. -/
theorem exists_ofDuration?_iff {start : Date} {days : Nat} :
    (∃ range, ofDuration? start days = some range) ↔
      1 ≤ days ∧ ∃ stop : Date, stop.day = start.day + days := by
  constructor
  · rintro ⟨range, h⟩
    obtain ⟨_, hstop, hdays⟩ := ofDuration?_eq_some h
    exact ⟨hdays, range.stop, hstop⟩
  · rintro ⟨hdays, stop, hstop⟩
    have horder : start < stop := by
      rw [Date.lt_def]
      omega
    have hlater : start.later? days = some stop := by
      unfold Date.later? Date.ofDay?
      rw [dif_pos (by rw [← hstop]; exact ⟨stop.firstDay_le, stop.le_lastDay⟩)]
      exact congrArg some (Date.eq_of_day_eq hstop.symm)
    have hnew : new start stop = .ok ⟨start, stop, Int.le_of_lt horder⟩ :=
      new_eq_ok_iff.2 ⟨horder, rfl, rfl⟩
    refine ⟨⟨start, stop, Int.le_of_lt horder⟩, ?_⟩
    unfold ofDuration?
    rw [if_neg (Nat.one_le_iff_ne_zero.1 hdays), hlater]
    dsimp only
    rw [hnew]
    rfl

/-- The range of a number of nights has as many days. -/
theorem days_of_ofDuration? {start : Date} {days : Nat} {range : DateRange}
    (h : ofDuration? start days = some range) : range.days = days := by
  obtain ⟨rfl, hstop, _⟩ := ofDuration?_eq_some h
  unfold DateRange.days Date.daysUntil
  omega

/-- The ranges that are made are those with a day. -/
theorem made_iff {range : DateRange} : range.Made ↔ range.start < range.stop := by
  constructor
  · intro h
    cases h with
    | ofDates h =>
      obtain ⟨horder, rfl, rfl⟩ := new_eq_ok_iff.1 h
      exact horder
    | ofNights h =>
      obtain ⟨rfl, hstop, hdays⟩ := ofDuration?_eq_some h
      rw [Date.lt_def]
      omega
  · exact fun h => .ofDates (new_eq_ok_iff.2 ⟨h, rfl, rfl⟩)

/-! ## 2. Two ranges -/

/-- **How two ranges stand to each other**: whether they overlap, and on how many days, is a matter of
    the days in both. -/
structure Compared (a b : DateRange) : Prop where
  symmetric : a.overlaps b = b.overlaps a
  counted : a.overlaps b = true ↔ 0 < a.overlapDays b
  shared : a.overlaps b = true ↔ ∃ d, d ∈ a ∧ d ∈ b
  count : a.overlapDays b = ({d : Date | d ∈ a ∧ d ∈ b} : Set Date).ncard

/-- Ranges with days overlap exactly if one of these days is in both. -/
theorem overlaps_iff_exists_mem {a b : DateRange} (ha : a.start < a.stop) (hb : b.start < b.stop) :
    a.overlaps b = true ↔ ∃ d, d ∈ a ∧ d ∈ b := by
  rw [Date.lt_def] at ha hb
  constructor
  · intro h
    obtain ⟨hab, hba⟩ := overlaps_iff.1 h
    -- the later one of the two starts is a day of both
    have hmax := Date.day_max a.start b.start
    refine ⟨max a.start b.start, mem_iff.2 ⟨?_, ?_⟩, mem_iff.2 ⟨?_, ?_⟩⟩ <;> omega
  · rintro ⟨d, hda, hdb⟩
    obtain ⟨hda, hda'⟩ := mem_iff.1 hda
    obtain ⟨hdb, hdb'⟩ := mem_iff.1 hdb
    refine overlaps_iff.2 ⟨?_, ?_⟩ <;> omega

theorem compared {a b : DateRange} (ha : a.start < a.stop) (hb : b.start < b.stop) :
    a.Compared b where
  symmetric := overlaps_comm a b
  counted := (overlapDays_pos_iff ha hb).symm
  shared := overlaps_iff_exists_mem ha hb
  count := overlapDays_eq_ncard a b

/-! ## 3. Widening -/

/-- **One range is another one with more days**, and has a day. -/
structure Widens (wider range : DateRange) : Prop where
  nonempty : wider.start < wider.stop
  contains : ∀ d ∈ range, d ∈ wider

theorem widens_of_days {wider range : DateRange} (h : range.start < range.stop)
    (hstart : wider.start.day ≤ range.start.day) (hstop : range.stop.day ≤ wider.stop.day) :
    wider.Widens range where
  nonempty := by
    rw [Date.lt_def] at h ⊢
    omega
  contains d hd := by
    obtain ⟨hfrom, hto⟩ := mem_iff.1 hd
    exact mem_iff.2 ⟨Int.le_trans hstart hfrom, Int.lt_of_lt_of_le hto hstop⟩

theorem extendedBy_widens {range : DateRange} (h : range.start < range.stop) (days : Nat) :
    (range.extendedBy days).Widens range := by
  have hlast := range.stop.le_lastDay
  refine widens_of_days h (Int.le_refl _) ?_
  rw [day_stop_extendedBy]
  omega

theorem startingEarlierBy_widens {range : DateRange} (h : range.start < range.stop) (days : Nat) :
    (range.startingEarlierBy days).Widens range := by
  have hfirst := range.start.firstDay_le
  refine widens_of_days h ?_ (Int.le_refl _)
  rw [day_start_startingEarlierBy]
  omega

/-- **What a range becomes by a shift at either end**: one end moves, as far as the calendar goes, and
    the other one stays. -/
structure Shifted (range : DateRange) (days : Nat) : Prop where
  extended_start : (range.extendedBy days).start = range.start
  extended_stop : (range.extendedBy days).stop.day = min (range.stop.day + days) Date.last.day
  extended_widens : (range.extendedBy days).Widens range
  earlier_start :
    (range.startingEarlierBy days).start.day = max (range.start.day - days) Date.first.day
  earlier_stop : (range.startingEarlierBy days).stop = range.stop
  earlier_widens : (range.startingEarlierBy days).Widens range

theorem shifted {range : DateRange} (h : range.start < range.stop) (days : Nat) :
    range.Shifted days where
  extended_start := rfl
  extended_stop := day_stop_extendedBy range days
  extended_widens := extendedBy_widens h days
  earlier_start := day_start_startingEarlierBy range days
  earlier_stop := rfl
  earlier_widens := startingEarlierBy_widens h days

/-! ## 4. The laws -/

/-- **Ranges that are made, over the whole calendar.** There is one for each number of nights that the
    calendar has; how two of them stand to each other is a matter of their days; a shift widens them
    and stops at the ends of the calendar; days at the end of one are as good as days at the start of
    the other one, so that a window which is early enough for the longest turnaround of an estate is
    early enough for all premises. -/
theorem made_laws {a b : DateRange} (ha : a.Made) (hb : b.Made) :
    (∀ (start : Date) (days : Nat),
      ((∃ range, ofDuration? start days = some range) ↔
        1 ≤ days ∧ ∃ stop : Date, stop.day = start.day + days) ∧
      ∀ range, ofDuration? start days = some range → range.start = start ∧ range.days = days) ∧
    a.Compared b ∧
    (∀ days, a.Shifted days) ∧
    (∀ days, (a.extendedBy days).overlaps b = a.overlaps (b.startingEarlierBy days)) ∧
    ∀ (estate : List Inventory), ∀ inventory ∈ estate,
      (a.extendedBy inventory.premises.turnaroundDays).overlaps b = true →
        a.overlaps (b.startingEarlierBy (longestTurnaround estate)) = true := by
  rw [made_iff] at ha hb
  refine ⟨fun start days => ⟨exists_ofDuration?_iff, fun range h => ?_⟩, compared ha hb, shifted ha,
    fun days => Bool.eq_iff_iff.2 (overlaps_extendedBy_iff ha hb days), fun estate inventory h => ?_⟩
  · exact ⟨(ofDuration?_eq_some h).1, days_of_ofDuration? h⟩
  · exact overlaps_window ha hb (le_longestTurnaround h)

/-- Two nights soon after the calendar begins. -/
def firstNights : DateRange := ⟨Date.first.later 2, Date.first.later 4, by decide⟩

/-- The last two nights of the calendar. -/
def lastNights : DateRange := ⟨Date.last.earlier 2, Date.last, by decide⟩

/-- As many days as the calendar has take either range past an end of it, and they overlap both ways. -/
theorem made_laws_firstNights_lastNights :
    ofDuration? (Date.first.later 2) 2 = some firstNights ∧
      lastNights.Made ∧
      (firstNights.extendedBy 191491529).stop = Date.last ∧
      (lastNights.startingEarlierBy 191491529).start = Date.first ∧
      firstNights.Compared lastNights ∧
      (firstNights.extendedBy 191491529).overlaps lastNights = true ∧
      firstNights.overlaps (lastNights.startingEarlierBy 191491529) = true := by
  have hfirst : ofDuration? (Date.first.later 2) 2 = some firstNights := by decide
  have hlast : lastNights.Made := .ofDates (new_eq_ok_iff.2 ⟨by decide, rfl, rfl⟩)
  obtain ⟨_, hcompared, _, hshift, _⟩ := made_laws (.ofNights hfirst) hlast
  have hoverlaps : (firstNights.extendedBy 191491529).overlaps lastNights = true := by decide
  refine ⟨hfirst, hlast, by decide, by decide, hcompared, hoverlaps, ?_⟩
  rw [← hshift 191491529]
  exact hoverlaps

end DateRange

end Bedspace
