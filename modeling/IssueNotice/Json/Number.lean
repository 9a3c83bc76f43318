import IssueNotice.Decimal.Text
import IssueNotice.Json.Reading

/-!
# JSON numbers

A number without fraction and exponent is an integer if it fits into 64 bits, with a sign or
without; negative zero does not count as one. Any other number is a float. Its digits are read as
one integer of 64 bits, digits that no longer fit being dropped, and scaled once by a power of ten.
-/

namespace IssueNotice.Json

/-- A number as it was read. -/
inductive Number where
  | integer (n : Int)
  | real (x : Float)

/-- Greatest significand. -/
abbrev maxSignificand : Nat := Nat.pow 2 64 - 1

/-- The value of a digit. -/
def digitValue (c : Char) : Nat := c.toNat - '0'.toNat

/-- Takes up digits while the significand stays within 64 bits. -/
def takeUp (significand : Nat) : List Char → Nat × List Char
  | [] => (significand, [])
  | c :: rest =>
    if c.isDigit ∧ 10 * significand + digitValue c ≤ maxSignificand then
      takeUp (10 * significand + digitValue c) rest
    else (significand, c :: rest)

/-- A power of ten as a float, up to the greatest. -/
def powerOfTen (e : Nat) : Float := Float.ofScientific 1 false e

/-- A significand scaled by a power of ten. -/
def scale (significand : Nat) (e : Int) : Except Problem Float :=
  let x := significand.toUInt64.toFloat
  if 0 ≤ e then
    if e ≤ 308 then
      let y := x * powerOfTen e.toNat
      if y.isInf then .error .numberOutOfRange else .ok y
    else if significand = 0 then .ok x
    else .error .numberOutOfRange
  else if -308 ≤ e then .ok (x / powerOfTen (-e).toNat)
  else if -616 ≤ e then .ok (x / powerOfTen 308 / powerOfTen (-e - 308).toNat)
  else .ok 0.0

/-- A float with its sign. -/
def signed (positive : Bool) (x : Float) : Number := .real (if positive then x else -x)

/-- The exponent of a number, after its letter. -/
def exponentPart (positive : Bool) (significand : Nat) (e : Int) : Reading Number := do
  let cs ← get
  let negative := cs.head? = some '-'
  let cs := if negative || cs.head? = some '+' then cs.drop 1 else cs
  match cs with
  | [] => throw .endInValue
  | c :: _ =>
    if !c.isDigit then throw .invalidNumber
    let n := (cs.takeWhile Char.isDigit).foldl (fun n c => 10 * n + digitValue c) 0
    set (cs.dropWhile Char.isDigit)
    if n > 2147483647 then
      if significand ≠ 0 && !negative then throw .numberOutOfRange
      pure (signed positive 0.0)
    else
      let x ← liftM (scale significand (if negative then e - n else e + n))
      pure (signed positive x)

/-- The rest of a float, after its digits. -/
def floatTail (positive : Bool) (significand : Nat) (e : Int) : Reading Number := do
  match ← get with
  | c :: rest =>
    if c = 'e' ∨ c = 'E' then do
      set rest
      exponentPart positive significand e
    else pure (signed positive (← liftM (scale significand e)))
  | [] => pure (signed positive (← liftM (scale significand e)))

/-- The fraction of a number, after its point. -/
def fractionPart (positive : Bool) (significand : Nat) (e : Int) : Reading Number := do
  let cs ← get
  match cs with
  | [] => throw .endInValue
  | c :: _ => if !c.isDigit then throw .invalidNumber
  let (significand, rest) := takeUp significand cs
  set (rest.dropWhile Char.isDigit)
  floatTail positive significand (e - (cs.length - rest.length : Nat))

/-- An integer with its sign; negative zero and what does not fit into 64 bits are floats. -/
def signedInteger (positive : Bool) (n : Nat) : Number :=
  if positive then .integer n
  else if n = 0 ∨ Nat.pow 2 63 < n then .real (-n.toUInt64.toFloat)
  else .integer (-n)

/-- What follows the integer part of a number, of which some digits were dropped. -/
def numberTail (positive : Bool) (significand dropped : Nat) : Reading Number := do
  match ← get with
  | '.' :: rest => do
    set rest
    fractionPart positive significand dropped
  | c :: _ =>
    if c = 'e' ∨ c = 'E' ∨ 0 < dropped then floatTail positive significand dropped
    else pure (signedInteger positive significand)
  | [] =>
    if 0 < dropped then floatTail positive significand dropped
    else pure (signedInteger positive significand)

/-- A number, after its sign. -/
def unsignedNumber (positive : Bool) : Reading Number := do
  let cs ← get
  match cs with
  | [] => throw .endInValue
  | '0' :: rest =>
    if rest.head?.any Char.isDigit then throw .invalidNumber
    set rest
    numberTail positive 0 0
  | c :: _ =>
    if !c.isDigit then throw .invalidNumber
    let (significand, rest) := takeUp 0 cs
    let dropped := (rest.takeWhile Char.isDigit).length
    set (rest.drop dropped)
    numberTail positive significand dropped

/-- A number. -/
def number : Reading Number := do
  match ← get with
  | '-' :: rest => do
    set rest
    unsignedNumber false
  | _ => unsignedNumber true

/-- A number where something else was expected. -/
def Number.found : Number → Found
  | integer n => .integer n
  | real x => .real (Decimal.floatText x)

end IssueNotice.Json
