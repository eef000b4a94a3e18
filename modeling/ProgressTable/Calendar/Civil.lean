/-!
# Civil time

From a number of seconds to the date and the time of day that a wall clock shows, in the Gregorian
calendar carried on without end in both directions. Years are counted with a year zero. Days are
numbered from the first of January 1970, which was a Thursday.
-/

namespace ProgressTable

/-- A day of the calendar. -/
structure CivilDate where
  year : Int
  /-- From 1 to 12. -/
  month : Nat
  /-- From 1 to 31. -/
  day : Nat
deriving Repr, DecidableEq

namespace CivilDate

/-- Whether a year has a twenty-ninth of February. -/
def isLeapYear (y : Int) : Bool := y % 4 = 0 && (y % 100 ≠ 0 || y % 400 = 0)

/-- The date of a numbered day. The count runs in cycles of 400 years, or 146097 days, that begin
with a first of March, so the leap day ends a year. -/
def ofDays (days : Int) : CivilDate :=
  let shifted := days + 719468
  let cycle := shifted / 146097
  let dayOfCycle := (shifted % 146097).toNat
  let yearOfCycle :=
    (dayOfCycle - dayOfCycle / 1460 + dayOfCycle / 36524 - dayOfCycle / 146096) / 365
  let dayOfYear := dayOfCycle - (365 * yearOfCycle + yearOfCycle / 4 - yearOfCycle / 100)
  let monthFromMarch := (5 * dayOfYear + 2) / 153
  let month := if monthFromMarch < 10 then monthFromMarch + 3 else monthFromMarch - 9
  { year := yearOfCycle + cycle * 400 + (if month ≤ 2 then 1 else 0)
    month
    day := dayOfYear - (153 * monthFromMarch + 2) / 5 + 1 }

/-- The number of days of a year before a month of it. -/
def daysBeforeMonth (leap : Bool) (month : Nat) : Nat :=
  let common := [0, 31, 59, 90, 120, 151, 181, 212, 243, 273, 304, 334].getD (month - 1) 0
  if leap && 2 < month then common + 1 else common

/-- The number of the day in its year, from 1. -/
def ordinal (d : CivilDate) : Nat := daysBeforeMonth (isLeapYear d.year) d.month + d.day

/-- The quarter of the year, from 1. -/
def quarter (d : CivilDate) : Nat := (d.month - 1) / 3 + 1

example : ofDays 0 = ⟨1970, 1, 1⟩ ∧ ofDays (-1) = ⟨1969, 12, 31⟩
    ∧ ofDays 11016 = ⟨2000, 2, 29⟩ ∧ ordinal ⟨2000, 12, 31⟩ = 366 := by decide

end CivilDate

/-! ## Weeks -/

/-- How many days a numbered day comes after a Sunday. -/
def daysSinceSunday (days : Int) : Nat := ((days + 4) % 7).toNat

/-- How many days a numbered day comes after a Monday. -/
def daysSinceMonday (days : Int) : Nat := ((days + 3) % 7).toNat

/-- The year and the number of the ISO week in which a numbered day lies: a week belongs to the
year of its Thursday. -/
def isoWeekOf (days : Int) : Int × Nat :=
  let thursday := CivilDate.ofDays (days + 3 - daysSinceMonday days)
  (thursday.year, (thursday.ordinal - 1) / 7 + 1)

/-! ## Time of day -/

/-- What a wall clock shows. -/
structure CivilTime where
  /-- The number of the day. -/
  days : Int
  hour : Nat
  minute : Nat
  second : Nat
deriving Repr, DecidableEq

namespace CivilTime

/-- The wall-clock time a number of seconds after the start of day 0. -/
def ofSeconds (seconds : Int) : CivilTime :=
  let ofDay := (seconds % 86400).toNat
  { days := seconds / 86400
    hour := ofDay / 3600
    minute := ofDay / 60 % 60
    second := ofDay % 60 }

/-- The date of a wall-clock time. -/
def date (t : CivilTime) : CivilDate := .ofDays t.days

/-- The hour on a dial of twelve. -/
def hour12 (t : CivilTime) : Nat := if t.hour % 12 = 0 then 12 else t.hour % 12

/-- Whether the hour lies after noon. -/
def afterNoon (t : CivilTime) : Bool := 12 ≤ t.hour

end CivilTime
end ProgressTable
