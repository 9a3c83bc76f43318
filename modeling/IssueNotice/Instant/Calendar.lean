/-!
# Civil calendar

The proleptic Gregorian calendar over day numbers, day 0 being 1 January 1970. Years are counted
from March, so that a leap day is the last day of its year, and in eras of 400 years, which all have
146097 days.
-/

namespace IssueNotice.Instant

/-- A day by year, month and day of month. -/
structure CivilDate where
  year : Int
  month : Nat
  day : Nat
  deriving Repr, DecidableEq

/-- Days in an era of 400 years. -/
abbrev daysPerEra : Int := 146097

/-- Days from 1 March of year 0 to 1 January 1970. -/
abbrev daysToEpoch : Int := 719468

/-- Whether a year has a leap day. -/
def isLeapYear (year : Int) : Bool :=
  year % 4 == 0 && (year % 100 != 0 || year % 400 == 0)

/-- Number of days in a month. -/
def daysInMonth (year : Int) (month : Nat) : Nat :=
  if month = 2 then (if isLeapYear year then 29 else 28)
  else if month = 4 ∨ month = 6 ∨ month = 9 ∨ month = 11 then 30
  else 31

namespace CivilDate

/-- The day number of a civil date. -/
def dayNumber (d : CivilDate) : Int :=
  let year := if d.month ≤ 2 then d.year - 1 else d.year
  let era := year / 400
  let yearOfEra := year % 400
  let dayOfYear : Nat := (153 * ((d.month + 9) % 12) + 2) / 5 + d.day - 1
  era * daysPerEra + (yearOfEra * 365 + yearOfEra / 4 - yearOfEra / 100 + dayOfYear) - daysToEpoch

/-- The civil date of a day number. -/
def ofDayNumber (n : Int) : CivilDate :=
  let shifted := n + daysToEpoch
  let era := shifted / daysPerEra
  let dayOfEra := (shifted % daysPerEra).toNat
  let yearOfEra :=
    (dayOfEra - dayOfEra / 1460 + dayOfEra / 36524 - dayOfEra / 146096) / 365
  let dayOfYear := dayOfEra - (365 * yearOfEra + yearOfEra / 4 - yearOfEra / 100)
  let monthFromMarch := (5 * dayOfYear + 2) / 153
  let month := if monthFromMarch < 10 then monthFromMarch + 3 else monthFromMarch - 9
  let year := era * 400 + yearOfEra
  { year := if month ≤ 2 then year + 1 else year
    month := month
    day := dayOfYear - (153 * monthFromMarch + 2) / 5 + 1 }

end CivilDate

/-- The years that are represented. -/
def yearInRange (year : Int) : Bool :=
  -262143 ≤ year && year ≤ 262142

/-- First day that is represented. -/
def firstDay : Int := CivilDate.dayNumber ⟨-262143, 1, 1⟩

/-- Last day that is represented. -/
def lastDay : Int := CivilDate.dayNumber ⟨262142, 12, 31⟩

end IssueNotice.Instant
