/-!
# Dates

A date is a day number, counted from 1970-01-01, between the first and the last day the calendar
can write (-262143-01-01 and +262142-12-31). Comparing dates and counting days is arithmetic on
the day numbers; year, month and day of the month (Gregorian rules carried back and forward
without end) are read off them.

* `Date.later?` and `Date.earlier?` move a date and fail past the ends of the calendar;
* `Date.ofCivil?` finds the date of a year, a month and a day, `Date.civil` goes back.
-/

namespace Bedspace

namespace Calendar

/-- The day number of -262143-01-01. -/
def firstDay : Int := -96465292

/-- The day number of +262142-12-31. -/
def lastDay : Int := 95026236

end Calendar

/-- A day between the first and the last one of the calendar. -/
structure Date where
  day : Int
  firstDay_le : Calendar.firstDay ≤ day
  le_lastDay : day ≤ Calendar.lastDay
  deriving DecidableEq

namespace Date

open Calendar

/-! ## 1. Order -/

instance : LE Date := ⟨fun a b => a.day ≤ b.day⟩

instance : LT Date := ⟨fun a b => a.day < b.day⟩

instance (a b : Date) : Decidable (a ≤ b) := inferInstanceAs (Decidable (a.day ≤ b.day))

instance (a b : Date) : Decidable (a < b) := inferInstanceAs (Decidable (a.day < b.day))

instance : Max Date := maxOfLe

instance : Min Date := minOfLe

theorem le_def {a b : Date} : a ≤ b ↔ a.day ≤ b.day := Iff.rfl

theorem lt_def {a b : Date} : a < b ↔ a.day < b.day := Iff.rfl

theorem day_max (a b : Date) : (max a b).day = max a.day b.day := by
  show (if a ≤ b then b else a).day = _
  simp only [le_def]
  split <;> omega

theorem day_min (a b : Date) : (min a b).day = min a.day b.day := by
  show (if a ≤ b then a else b).day = _
  simp only [le_def]
  split <;> omega

/-! ## 2. Moving along the calendar -/

/-- The date with a day number, if the calendar has it. -/
def ofDay? (day : Int) : Option Date :=
  if h : firstDay ≤ day ∧ day ≤ lastDay then some ⟨day, h.1, h.2⟩ else none

/-- The first date of the calendar. -/
def first : Date := ⟨firstDay, by decide, by decide⟩

/-- The last date of the calendar. -/
def last : Date := ⟨lastDay, by decide, by decide⟩

/-- The date `days` days later, if the calendar has it. -/
def later? (d : Date) (days : Nat) : Option Date := ofDay? (d.day + days)

/-- The date `days` days earlier, if the calendar has it. -/
def earlier? (d : Date) (days : Nat) : Option Date := ofDay? (d.day - days)

/-- The date `days` days later, or the last date of the calendar. -/
def later (d : Date) (days : Nat) : Date := (d.later? days).getD last

/-- The date `days` days earlier, or the first date of the calendar. -/
def earlier (d : Date) (days : Nat) : Date := (d.earlier? days).getD first

/-- The days from `a` to `b`, negative when `b` comes first. -/
def daysUntil (a b : Date) : Int := b.day - a.day

theorem day_later (d : Date) (days : Nat) : (d.later days).day = min (d.day + days) lastDay := by
  have := d.firstDay_le
  unfold later later? ofDay?
  split
  · simp; omega
  · simp [last]; omega

theorem day_earlier (d : Date) (days : Nat) :
    (d.earlier days).day = max (d.day - days) firstDay := by
  have := d.le_lastDay
  unfold earlier earlier? ofDay?
  split
  · simp; omega
  · simp [first]; omega

/-! ## 3. Year, month and day -/

/-- Whether a year has a 29 February. -/
def isLeapYear (year : Int) : Bool :=
  year % 4 = 0 && (year % 100 ≠ 0 || year % 400 = 0)

/-- The number of days of a month. -/
def daysOfMonth (year : Int) (month : Nat) : Nat :=
  match month with
  | 2 => if isLeapYear year then 29 else 28
  | 4 | 6 | 9 | 11 => 30
  | _ => 31

/-- The days of an era of 400 years. -/
def eraDays : Int := 146097

/-- The days from 1 March of the year 0 to 1 January 1970. -/
def marchOrigin : Int := 719468

/-- The number of a day of the calendar. Years are counted from March, so that the leap day is
    the last of its year, and the months from March on begin at `(153 * m + 2) / 5`. -/
def dayNumber (year : Int) (month day : Nat) : Int :=
  let marchYear := if month ≤ 2 then year - 1 else year
  let era := marchYear.fdiv 400
  let yearOfEra := marchYear - era * 400
  let dayOfYear : Int := (153 * ((month + 9) % 12) + 2) / 5 + day - 1
  let dayOfEra := yearOfEra * 365 + yearOfEra / 4 - yearOfEra / 100 + dayOfYear
  era * eraDays + dayOfEra - marchOrigin

/-- The date with a year, a month and a day of the month, if the calendar has it. -/
def ofCivil? (year : Int) (month day : Nat) : Option Date :=
  if 1 ≤ month ∧ month ≤ 12 ∧ 1 ≤ day ∧ day ≤ daysOfMonth year month then
    ofDay? (dayNumber year month day)
  else none

/-- A year, a month from 1 to 12 and a day of the month from 1. -/
structure Civil where
  year : Int
  month : Nat
  day : Nat
  deriving DecidableEq, Repr

/-- The year, month and day of the month of a date. -/
def civil (d : Date) : Civil :=
  let z := d.day + marchOrigin
  let era := z.fdiv eraDays
  let dayOfEra := z - era * eraDays
  let yearOfEra := (dayOfEra - dayOfEra / 1460 + dayOfEra / 36524 - dayOfEra / 146096) / 365
  let dayOfYear := dayOfEra - (365 * yearOfEra + yearOfEra / 4 - yearOfEra / 100)
  let marchMonth := (5 * dayOfYear + 2) / 153
  let day := dayOfYear - (153 * marchMonth + 2) / 5 + 1
  let month := if marchMonth < 10 then marchMonth + 3 else marchMonth - 9
  let year := yearOfEra + era * 400 + if month ≤ 2 then 1 else 0
  ⟨year, month.toNat, day.toNat⟩

end Date

end Bedspace
