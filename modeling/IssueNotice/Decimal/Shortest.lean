/-!
# Shortest decimals

A finite binary fraction is written with the fewest digits that still read back as the same
fraction, and of those with the digits nearest to it. `FloatParts` are the fraction's significand
and binary exponent; a decimal reads back when it lies between the midpoints to the neighbouring
fractions, the midpoints included for an even significand.
-/

namespace IssueNotice.Decimal

/-- A finite float without its sign: significand and exponent of two. -/
structure FloatParts where
  significand : Nat
  exponent : Int
  deriving Repr, DecidableEq

/-- The parts of the float with some bits, sign left aside. -/
def FloatParts.ofBits (bits : Nat) : FloatParts :=
  let fraction := bits % Nat.pow 2 52
  let biased := bits / Nat.pow 2 52 % Nat.pow 2 11
  if biased = 0 then ⟨fraction, -1074⟩ else ⟨Nat.pow 2 52 + fraction, Int.ofNat biased - 1075⟩

/-- A decimal number: digits and exponent of ten. -/
structure Digits where
  digits : Nat
  exponent : Int
  deriving Repr, DecidableEq

/-- The power of a base, over and under the line of a fraction. -/
def powers (base : Nat) (e : Int) : Nat × Nat :=
  if 0 ≤ e then (Nat.pow base e.toNat, 1) else (1, Nat.pow base (-e).toNat)

namespace FloatParts

/-- Whether the neighbour below is only half as far away as the one above. -/
def isNarrowBelow (f : FloatParts) : Bool :=
  f.significand == Nat.pow 2 52 && f.exponent > -1074

/-- Whether the decimal `n * 10 ^ e` reads back, ends included for an even significand. -/
def readsBack (f : FloatParts) (d : Digits) : Bool :=
  let (up2, down2) := powers 2 f.exponent
  let (up10, down10) := powers 10 d.exponent
  -- everything times four, over the common denominator
  let value := 4 * d.digits * up10 * down2
  let unit := up2 * down10
  let high := (4 * f.significand + 2) * unit
  let low := (4 * f.significand - (if f.isNarrowBelow then 1 else 2)) * unit
  if f.significand % 2 = 0 then low ≤ value && value ≤ high else low < value && value < high

/-- The decimals next to the float with an exponent: below or at it, and above it. -/
def neighbours (f : FloatParts) (exponent : Int) : Digits × Digits :=
  let (up2, down2) := powers 2 f.exponent
  let (up10, down10) := powers 10 exponent
  let n := f.significand * up2 * down10 / (down2 * up10)
  (⟨n, exponent⟩, ⟨n + 1, exponent⟩)

/-- Whether the float is nearer to the decimal below it than to the next one; a tie goes to even. -/
def nearerBelow (f : FloatParts) (below : Digits) : Bool :=
  let (up2, down2) := powers 2 f.exponent
  let (up10, down10) := powers 10 below.exponent
  let value := 2 * f.significand * up2 * down10
  let middle := (2 * below.digits + 1) * (down2 * up10)
  value < middle || (value = middle && below.digits % 2 = 0)

/-- The decimal to write with an exponent, if any with that exponent reads back. -/
def withExponent? (f : FloatParts) (exponent : Int) : Option Digits :=
  let (below, above) := f.neighbours exponent
  match f.readsBack below, f.readsBack above with
  | true, true => some (if f.nearerBelow below then below else above)
  | true, false => some below
  | false, true => some above
  | false, false => none

/-- The exponents of ten that the digits of a float can have, highest first. -/
def exponentRange : List Int := (List.range 640).map fun k => 309 - Int.ofNat k

/-- The decimal with the fewest digits that reads back. -/
def shortest (f : FloatParts) : Digits :=
  if f.significand = 0 then ⟨0, 0⟩
  else (exponentRange.findSome? f.withExponent?).getD ⟨0, 0⟩

end FloatParts

end IssueNotice.Decimal
