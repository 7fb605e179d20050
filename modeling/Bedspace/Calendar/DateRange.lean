import Bedspace.Calendar.DateText

/-!
# Ranges of days

A range holds its first day and not its last: the nights from `start` up to `stop`. A range may be
empty; it is never turned around.

* `DateRange.new` takes two dates in the right order and refuses all others;
* `DateRange.ofDuration?` takes a start and a number of nights;
* `DateRange.spanning` takes two dates of a record and is empty when they are out of order;
* `overlaps` and `overlapDays` compare two ranges, `extendedBy` and `startingEarlierBy` widen one
  and stop at the ends of the calendar.
-/

namespace Bedspace

/-- The days from `start` up to and without `stop`. -/
structure DateRange where
  start : Date
  stop : Date
  start_le_stop : start ≤ stop
  deriving DecidableEq

/-- Two dates that do not bound a range, because the end does not come after the start. -/
structure InvalidDateRange where
  start : Date
  stop : Date

/-- The wording of the refusal. -/
def InvalidDateRange.message (fault : InvalidDateRange) : String :=
  "end date " ++ fault.stop.text ++ " must be after start date " ++ fault.start.text

namespace DateRange

/-! ## 1. Making ranges -/

/-- The range between two dates, the second of which has to come after the first. -/
def new (start stop : Date) : Except InvalidDateRange DateRange :=
  if h : start < stop then .ok ⟨start, stop, Int.le_of_lt h⟩ else .error ⟨start, stop⟩

/-- The range of `days` nights from `start`; there is none for zero nights or past the calendar. -/
def ofDuration? (start : Date) (days : Nat) : Option DateRange :=
  if days = 0 then none
  else
    match start.later? days with
    | none => none
    | some stop => (new start stop).toOption

/-- The range between two dates, empty when the second does not come after the first. -/
def spanning (start stop : Date) : DateRange :=
  ⟨start, max stop start, by rw [Date.le_def, Date.day_max]; omega⟩

/-! ## 2. Counting and comparing -/

/-- The number of days of a range. -/
def days (range : DateRange) : Int := range.start.daysUntil range.stop

/-- Whether two ranges, as far as they are not empty, have a day in common. -/
def overlaps (a b : DateRange) : Bool := a.start < b.stop && b.start < a.stop

/-- The number of days two ranges have in common. -/
def overlapDays (a b : DateRange) : Int :=
  max ((max a.start b.start).daysUntil (min a.stop b.stop)) 0

/-! ## 3. Widening -/

/-- The range with `days` more days at its end, as far as the calendar goes. -/
def extendedBy (range : DateRange) (days : Nat) : DateRange :=
  ⟨range.start, range.stop.later days, by
    have h := range.start_le_stop
    have hs := range.stop.le_lastDay
    rw [Date.le_def] at h ⊢
    rw [Date.day_later]
    omega⟩

/-- The range with `days` more days at its start, as far as the calendar goes. -/
def startingEarlierBy (range : DateRange) (days : Nat) : DateRange :=
  ⟨range.start.earlier days, range.stop, by
    have h := range.start_le_stop
    have hs := range.start.firstDay_le
    rw [Date.le_def] at h ⊢
    rw [Date.day_earlier]
    omega⟩

end DateRange

end Bedspace
