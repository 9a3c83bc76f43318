import IssueNotice.Decimal.Shortest

/-!
# Floats as text

A float is written with its shortest digits. From 0.00001 up to 16 digits before the point it is
written positionally, and always with a fraction; outside of that with an exponent of at least two
digits and its sign.
-/

namespace IssueNotice.Decimal

/-- Exponents, of the first digit, that are written positionally. -/
def isPositional (e : Int) : Bool := -5 ≤ e && e ≤ 15

/-- A number of zeros. -/
def zeros (n : Nat) : String := String.ofList (List.replicate n '0')

/-- Digits written positionally, the first of them with exponent `e`. -/
def positionalText (digits : String) (e : Int) : String :=
  if e < 0 then "0." ++ zeros (-e - 1).toNat ++ digits
  else
    let whole := e.toNat + 1
    if digits.length ≤ whole then digits ++ zeros (whole - digits.length) ++ ".0"
    else (digits.take whole).toString ++ "." ++ (digits.drop whole).toString

/-- Digits written with the exponent `e` of the first of them. -/
def scientificText (digits : String) (e : Int) : String :=
  let rest := (digits.drop 1).toString
  let magnitude := toString e.natAbs
  (digits.take 1).toString ++ (if rest.isEmpty then "" else "." ++ rest)
    ++ (if e < 0 then "e-" else "e+")
    ++ (if magnitude.length < 2 then "0" else "") ++ magnitude

/-- The text of a decimal. -/
def Digits.text (d : Digits) : String :=
  let digits := toString d.digits
  let e := d.exponent + Int.ofNat digits.length - 1
  if d.digits = 0 then "0.0"
  else if isPositional e then positionalText digits e
  else scientificText digits e

/-- The text of a finite float. -/
def floatText (x : Float) : String :=
  let bits := x.toBits.toNat
  (if bits / Nat.pow 2 63 = 1 then "-" else "") ++ (FloatParts.ofBits bits).shortest.text

end IssueNotice.Decimal
