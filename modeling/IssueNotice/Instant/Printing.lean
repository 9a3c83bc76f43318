import IssueNotice.Instant
import IssueNotice.Instant.Calendar

/-!
# Instants as text

The profile of RFC 3339 in which instants are written: date and time joined by `T`, the shortest of
0, 3, 6 and 9 fraction digits that is exact, and the offset `+00:00`. A leap second is written as
second 60; a year outside of 0 to 9999 carries its sign.
-/

namespace IssueNotice.Instant

/-- A number in decimal with zeros in front up to a width. -/
def padded (width n : Nat) : String :=
  let digits := toString n
  String.ofList (List.replicate (width - digits.length) '0') ++ digits

/-- A year: four digits, with a sign in front outside of 0 to 9999. -/
def yearText (year : Int) : String :=
  if 0 ≤ year ∧ year ≤ 9999 then padded 4 year.toNat
  else (if year < 0 then "-" else "+") ++ padded 4 year.natAbs

/-- The fraction of a second: nothing, or a point and 3, 6 or 9 digits. -/
def fractionText (nanos : Nat) : String :=
  if nanos = 0 then ""
  else if nanos % 1000000 = 0 then "." ++ padded 3 (nanos / 1000000)
  else if nanos % 1000 = 0 then "." ++ padded 6 (nanos / 1000)
  else "." ++ padded 9 nanos

/-- The date part. -/
def dateText (t : Instant) : String :=
  let d := CivilDate.ofDayNumber t.day
  yearText d.year ++ "-" ++ padded 2 d.month ++ "-" ++ padded 2 d.day

/-- The time part. -/
def timeText (t : Instant) : String :=
  let leap := t.nano / nanosPerSecond
  padded 2 (t.second / 3600) ++ ":" ++ padded 2 (t.second / 60 % 60) ++ ":"
    ++ padded 2 (t.second % 60 + leap) ++ fractionText (t.nano % nanosPerSecond)

/-- The text of an instant. -/
def text (t : Instant) : String :=
  t.dateText ++ "T" ++ t.timeText ++ "+00:00"

end IssueNotice.Instant
