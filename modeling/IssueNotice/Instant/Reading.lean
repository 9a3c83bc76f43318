import IssueNotice.Instant
import IssueNotice.Instant.Calendar
import IssueNotice.Text.Blank

/-!
# Instants from text

A relaxed RFC 3339 is read: months, days and times may have one digit, the year up to four or any
number after a sign, blanks may stand before every number and punctuation mark, and a lower-case `t`
or a blank may part date and time. The offset is `Z`, `UTC` in any case, or a sign with hours and
minutes.

`Instant.ofText` checks in this order: the characters one by one, each number against its own range
as it is read; then that nothing is left over; then that the day exists; then that the instant in
UTC is a day that is represented.
-/

namespace IssueNotice.Instant

/-- Why a text is not an instant. -/
inductive Problem where
  | tooShort
  | invalidCharacter
  | outOfRange
  | impossible
  | trailingInput
  deriving Repr, DecidableEq

/-- What is said about a text that is not an instant. -/
def Problem.message : Problem → String
  | tooShort => "premature end of input"
  | invalidCharacter => "input contains invalid characters"
  | outOfRange => "input is out of range"
  | impossible => "no possible date and time matching input"
  | trailingInput => "trailing input"

/-- A step of reading: takes characters off the front of the text. -/
abbrev Step (α : Type) := StateT (List Char) (Except Problem) α

/-- Skips blanks. -/
def blanks : Step Unit := modify Text.skipBlanks

/-- The value of decimal digits. -/
def decimalValue (digits : List Char) : Nat :=
  digits.foldl (fun n c => 10 * n + (c.toNat - '0'.toNat)) 0

/-- At least one digit and no more than a width allows. -/
def digits (width : Option Nat) : Step (List Char) := do
  let cs ← get
  let found := ((width.map cs.take).getD cs).takeWhile Char.isDigit
  if cs.isEmpty then throw .tooShort
  if found.isEmpty then throw .invalidCharacter
  set (cs.drop found.length)
  pure found

/-- A given character. -/
def mark (c : Char) : Step Unit := do
  match ← get with
  | [] => throw .tooShort
  | d :: rest => if d = c then set rest else throw .invalidCharacter

/-- A number of one or two digits within a range, after blanks. -/
def small (low high : Nat) : Step Nat := do
  blanks
  let n := decimalValue (← digits (some 2))
  if low ≤ n ∧ n ≤ high then pure n else throw .outOfRange

/-- A year: up to four digits, or a sign and any number of digits. -/
def year : Step Int := do
  blanks
  let value : Int ← match ← get with
    | '-' :: rest => do
      set rest
      pure (-(decimalValue (← digits none) : Int))
    | '+' :: rest => do
      set rest
      pure (decimalValue (← digits none) : Int)
    | _ => pure (decimalValue (← digits (some 4)) : Int)
  if -2147483648 ≤ value ∧ value ≤ 2147483647 then pure value else throw .outOfRange

/-- A punctuation mark, after blanks. -/
def markAfterBlanks (c : Char) : Step Unit := do
  blanks
  mark c

/-- Year, month and day. -/
def civilDate : Step CivilDate := do
  let year ← year
  markAfterBlanks '-'
  let month ← small 1 12
  markAfterBlanks '-'
  let day ← small 1 31
  pure ⟨year, month, day⟩

/-- What may stand between date and time. -/
def dateTimeMark : Step Unit := do
  match ← get with
  | [] => throw .tooShort
  | c :: rest => if c = 't' ∨ c = 'T' ∨ c = ' ' then set rest else throw .invalidCharacter

/-- Nanoseconds after a point: nine digits count, any more are skipped. -/
def fraction : Step Nat := do
  match ← get with
  | '.' :: rest => do
    set rest
    let found ← digits (some 9)
    modify (·.dropWhile Char.isDigit)
    pure (decimalValue found * Nat.pow 10 (9 - found.length))
  | _ => pure 0

/-- A time as read: the second may be 60. -/
structure ClockTime where
  hour : Nat
  minute : Nat
  second : Nat
  nano : Nat

/-- Hour, minute, second and fraction. -/
def clockTime : Step ClockTime := do
  let hour ← small 0 23
  markAfterBlanks ':'
  let minute ← small 0 59
  markAfterBlanks ':'
  let second ← small 0 60
  let nano ← fraction
  pure ⟨hour, minute, second, nano⟩

/-- Two hour digits of an offset. -/
def offsetHours : Step Nat := do
  match ← get with
  | [] => throw .tooShort
  | [c] => throw (if c.utf8Size < 2 then .tooShort else .invalidCharacter)
  | c :: d :: rest =>
    if c.isDigit ∧ d.isDigit then do
      set rest
      pure (decimalValue [c, d])
    else throw .invalidCharacter

/-- Two minute digits of an offset, below 60. -/
def offsetMinutes : Step Nat := do
  match ← get with
  | [] => throw .tooShort
  | [c] => throw (if c.utf8Size < 2 then .tooShort else .invalidCharacter)
  | c :: d :: rest =>
    if c.isDigit ∧ d.isDigit then
      if decimalValue [c] < 6 then do
        set rest
        pure (decimalValue [c, d])
      else throw .outOfRange
    else throw .invalidCharacter

/-- Minutes east of UTC after a sign. -/
def signedOffset (sign : Int) : Step Int := do
  let hours ← offsetHours
  modify (·.dropWhile fun c => c = ':' || Text.isBlank c)
  let minutes ← offsetMinutes
  pure (sign * (60 * hours + minutes : Nat))

/-- Minutes east of UTC. -/
def offset : Step Int := do
  blanks
  let cs ← get
  if (cs.take 3).map Char.toLower = ['u', 't', 'c'] then do
    set (cs.drop 3)
    pure 0
  else
    match cs with
    | [] => throw .tooShort
    | c :: rest => do
      set rest
      if c = 'Z' ∨ c = 'z' then pure 0
      else if c = '+' then signedOffset 1
      else if c = '-' ∨ c = '\u2212' then signedOffset (-1)
      else throw .invalidCharacter

/-- Date, time and offset in minutes. -/
def zoned : Step (CivilDate × ClockTime × Int) := do
  let date ← civilDate
  dateTimeMark
  let time ← clockTime
  let minutes ← offset
  pure (date, time, minutes)

theorem secondOfDay_lt (seconds : Int) : (seconds % secondsPerDay).toNat < secondsPerDay := by
  have := Int.emod_lt_of_pos seconds (show (0 : Int) < 86400 by decide)
  have := Int.emod_nonneg seconds (show (86400 : Int) ≠ 0 by decide)
  show (seconds % 86400).toNat < 86400
  omega

/-- The instant of a local date and time at an offset, if the day exists and is represented. -/
def ofZoned (date : CivilDate) (time : ClockTime) (minutes : Int) : Except Problem Instant := do
  if !yearInRange date.year || date.day > daysInMonth date.year date.month then
    throw .outOfRange
  if minutes.natAbs ≥ 24 * 60 then
    throw .outOfRange
  let leap := time.second = 60
  let second := if leap then 59 else time.second
  let nano := (if leap then nanosPerSecond else 0) + time.nano
  let seconds : Int := (time.hour * 3600 + time.minute * 60 + second : Nat) - minutes * 60
  let day := date.dayNumber + seconds / secondsPerDay
  if day < firstDay ∨ lastDay < day then
    throw .impossible
  if h : nano < 2 * nanosPerSecond then
    pure ⟨day, (seconds % secondsPerDay).toNat, nano, secondOfDay_lt seconds, h⟩
  else throw .outOfRange

/-- The instant that a text denotes. -/
def ofText (s : String) : Except Problem Instant := do
  let ((date, time, minutes), rest) ← zoned.run s.toList
  if !(Text.skipBlanks rest).isEmpty then
    throw .trailingInput
  ofZoned date time minutes

end IssueNotice.Instant
