/-!
# Calendar dates

Dates of the proleptic Gregorian calendar. A date is kept as year, month and day, so that it
prints and reads back without arithmetic; day numbers serve for moving by many days.

## Main definitions

* `Date` — a year, a month of it and a day of that month.
* `Date.next?`, `Date.prev?` — the neighbouring dates.
* `Date.dayNumber`, `Date.ofDayNumber` — days counted from 1970-01-01.
* `Date.weekday` — the day of the week.
-/

namespace Scrollback

/-- A year is a leap year when it divides by four, centuries only when they divide by 400. -/
def isLeapYear (y : Int) : Bool :=
  y % 4 == 0 && (y % 100 != 0 || y % 400 == 0)

/-- The number of days in a month. -/
def daysInMonth (y : Int) (m : Nat) : Nat :=
  if m = 2 then (if isLeapYear y then 29 else 28)
  else if m = 4 ∨ m = 6 ∨ m = 9 ∨ m = 11 then 30
  else 31

/-- A calendar date. -/
@[ext]
structure Date where
  /-- The year, with a year zero. -/
  year : Int
  /-- The month, from 1. -/
  month : Nat
  /-- The day of the month, from 1. -/
  day : Nat
deriving DecidableEq, Repr

namespace Date

/-- The first and the last year that dates are kept for. -/
def minYear : Int := -262143
/-- The last year that dates are kept for. -/
def maxYear : Int := 262142

/-- The date exists in the calendar and its year is in range. -/
def IsValid (d : Date) : Prop :=
  minYear ≤ d.year ∧ d.year ≤ maxYear ∧ 1 ≤ d.month ∧ d.month ≤ 12 ∧
    1 ≤ d.day ∧ d.day ≤ daysInMonth d.year d.month

instance (d : Date) : Decidable d.IsValid := by unfold IsValid; infer_instance

/-- The date with the given parts, if there is one. -/
def of? (y : Int) (m d : Nat) : Option Date :=
  if IsValid ⟨y, m, d⟩ then some ⟨y, m, d⟩ else none

/-- The following date, if its year is in range. -/
def next? (d : Date) : Option Date :=
  if d.day < daysInMonth d.year d.month then some { d with day := d.day + 1 }
  else if d.month < 12 then some { d with month := d.month + 1, day := 1 }
  else if d.year < maxYear then some ⟨d.year + 1, 1, 1⟩
  else none

/-- The preceding date, if its year is in range. -/
def prev? (d : Date) : Option Date :=
  if 1 < d.day then some { d with day := d.day - 1 }
  else if 1 < d.month then
    some { d with month := d.month - 1, day := daysInMonth d.year (d.month - 1) }
  else if minYear < d.year then some ⟨d.year - 1, 12, 31⟩
  else none

/-! ## Day numbers

The count runs over years that begin in March, so that a leap day is the last of its year. -/

/-- Days from 1970-01-01 to the date. -/
def dayNumber (d : Date) : Int :=
  let y := if d.month ≤ 2 then d.year - 1 else d.year
  let era := y / 400
  let yearOfEra := y - era * 400
  let monthFromMarch : Int := (d.month + 9) % 12
  let dayOfYear := (153 * monthFromMarch + 2) / 5 + d.day - 1
  let dayOfEra := yearOfEra * 365 + yearOfEra / 4 - yearOfEra / 100 + dayOfYear
  era * 146097 + dayOfEra - 719468

/-- The date a number of days after 1970-01-01. -/
def ofDayNumber (n : Int) : Date :=
  let z := n + 719468
  let era := z / 146097
  let dayOfEra := z - era * 146097
  let yearOfEra := (dayOfEra - dayOfEra / 1460 + dayOfEra / 36524 - dayOfEra / 146096) / 365
  let dayOfYear := dayOfEra - (365 * yearOfEra + yearOfEra / 4 - yearOfEra / 100)
  let monthFromMarch := (5 * dayOfYear + 2) / 153
  let day := dayOfYear - (153 * monthFromMarch + 2) / 5 + 1
  let month := if monthFromMarch < 10 then monthFromMarch + 3 else monthFromMarch - 9
  ⟨yearOfEra + era * 400 + (if month ≤ 2 then 1 else 0), month.toNat, day.toNat⟩

/-- The day of the week, counted from Sunday. -/
def weekday (d : Date) : Nat :=
  ((d.dayNumber + 4) % 7).toNat

/-- The English name of the day of the week. -/
def weekdayName (d : Date) : String :=
  match d.weekday with
  | 0 => "Sunday"
  | 1 => "Monday"
  | 2 => "Tuesday"
  | 3 => "Wednesday"
  | 4 => "Thursday"
  | 5 => "Friday"
  | _ => "Saturday"

/-- The English name of the month. -/
def monthName (d : Date) : String :=
  match d.month with
  | 1 => "January"
  | 2 => "February"
  | 3 => "March"
  | 4 => "April"
  | 5 => "May"
  | 6 => "June"
  | 7 => "July"
  | 8 => "August"
  | 9 => "September"
  | 10 => "October"
  | 11 => "November"
  | _ => "December"

theorem isValid_of_of? {y : Int} {m d : Nat} {x : Date} (h : of? y m d = some x) : x.IsValid := by
  unfold of? at h
  split at h
  · next hv => cases h; exact hv
  · cases h

end Date

end Scrollback
