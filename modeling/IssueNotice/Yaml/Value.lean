import IssueNotice.Yaml.Node

/-!
# YAML values

What a node stands for: plain scalars are null, truth values or numbers where they have the form of
one, and core tags decide the kind of a scalar. `Document.value?` refuses what has no value: tags of
the application, a core tag on a text of another form, integers of more than 64 bits, a mapping with
the same key twice, and collections nested too deeply.
-/

namespace IssueNotice.Yaml

/-! ## Forms of scalars -/

/-- Whether a text stands for null. -/
def isNullWord (s : String) : Bool := ["null", "Null", "NULL", "~"].contains s

/-- The truth value that a text stands for. -/
def truthValue? (s : String) : Option Bool :=
  if ["true", "True", "TRUE"].contains s then some true
  else if ["false", "False", "FALSE"].contains s then some false
  else none

/-- The number with some digits. -/
def magnitude? (radix : Nat) (digits : List Char) : Option Nat :=
  if digits.isEmpty then none
  else digits.foldlM (fun n c => do
    let d ← Text.hexValue? c
    if d < radix then pure (radix * n + d) else none) 0

/-- The number that is written, with a mark in front for another radix than ten. -/
def markedMagnitude? : List Char → Option Nat
  | '0' :: 'x' :: digits => magnitude? 16 digits
  | '0' :: 'o' :: digits => magnitude? 8 digits
  | '0' :: 'b' :: digits => magnitude? 2 digits
  | digits => magnitude? 10 digits

/-- The text after its sign, if it has one. -/
def dropSign : List Char → List Char
  | '+' :: cs => cs
  | '-' :: cs => cs
  | cs => cs

/-- Whether a text is digits with a needless zero in front; it is no number then. -/
def isPadded (s : String) : Bool :=
  match dropSign s.toList with
  | '0' :: rest => !rest.isEmpty && rest.all Char.isDigit
  | _ => false

/-- The integer that a text stands for, of any size. -/
def integer? (s : String) : Option Int :=
  if isPadded s then none
  else
    match s.toList with
    | '-' :: cs => (markedMagnitude? cs).map fun n => -(n : Int)
    | '+' :: cs => (markedMagnitude? cs).map Int.ofNat
    | cs => (markedMagnitude? cs).map Int.ofNat

/-- The exponent behind its letter, with its sign. -/
def exponent? : List Char → Option Int
  | '-' :: digits => (magnitude? 10 digits).map fun n => -(n : Int)
  | '+' :: digits => (magnitude? 10 digits).map Int.ofNat
  | digits => (magnitude? 10 digits).map Int.ofNat

/-- The finite number with digits and an exponent of ten. -/
def scaled? (digits : Nat) (exponent : Int) : Option Float :=
  if digits = 0 then some 0.0
  else
    let size := exponent + (Nat.toDigits 10 digits).length
    if 310 < size then none
    else if size < -330 then some 0.0
    else
      let x := if exponent < 0 then Float.ofScientific digits true (-exponent).toNat
        else Float.ofScientific digits false exponent.toNat
      if x.isFinite then some x else none

/-- The finite number that a text without a sign stands for. -/
def unsignedReal? (cs : List Char) : Option Float := do
  let whole := cs.takeWhile Char.isDigit
  let rest := cs.drop whole.length
  let (fraction, rest) := match rest with
    | '.' :: rest => (rest.takeWhile Char.isDigit, rest.dropWhile Char.isDigit)
    | _ => ([], rest)
  let digits ← magnitude? 10 (whole ++ fraction)
  let exponent ← match rest with
    | [] => some 0
    | c :: rest => if c = 'e' ∨ c = 'E' then exponent? rest else none
  scaled? digits (exponent - fraction.length)

/-- The number that a text stands for. -/
def real? (s : String) : Option Float :=
  if [".inf", ".Inf", ".INF", "+.inf", "+.Inf", "+.INF"].contains s then some (1.0 / 0.0)
  else if ["-.inf", "-.Inf", "-.INF"].contains s then some (-1.0 / 0.0)
  else if [".nan", ".NaN", ".NAN"].contains s then some (0.0 / 0.0)
  else
    match s.toList with
    | '-' :: cs => (unsignedReal? cs).map (- ·)
    | '+' :: cs => unsignedReal? cs
    | cs => unsignedReal? cs

/-! ## Values -/

/-- What a node stands for. -/
inductive Value where
  | null
  | truth (b : Bool)
  | integer (n : Int)
  | real (x : Float)
  | text (s : String)
  | sequence (items : List Value)
  | mapping (entries : List (Value × Value))

/-- Whether an integer fits into 64 bits, with a sign or without. -/
def fits64 (n : Int) : Bool := -(Nat.pow 2 63) ≤ n && n < Nat.pow 2 64

/-- Whether an integer fits into 128 bits, with a sign or without. -/
def fits128 (n : Int) : Bool := -(Nat.pow 2 127) ≤ n && n < Nat.pow 2 128

namespace Value

mutual

/-- Whether two values are equal; the order in a mapping does not count. -/
def same : Value → Value → Bool
  | null, null => true
  | truth a, truth b => a == b
  | integer a, integer b => a == b
  | real a, real b => a == b || (a.isNaN && b.isNaN)
  | text a, text b => a == b
  | sequence xs, sequence ys => sameItems xs ys
  | mapping xs, mapping ys => xs.length == ys.length && hasEntries xs ys
  | _, _ => false

/-- Whether the values of two lists are equal in turn. -/
def sameItems : List Value → List Value → Bool
  | [], [] => true
  | x :: xs, y :: ys => same x y && sameItems xs ys
  | _, _ => false

/-- Whether every entry of the first list is in the second. -/
def hasEntries : List (Value × Value) → List (Value × Value) → Bool
  | [], _ => true
  | (k, v) :: xs, ys => ys.any (fun e => same k e.1 && same v e.2) && hasEntries xs ys

end

/-- Whether two of some entries have the same key. -/
def hasTwins : List (Value × Value) → Bool
  | [] => false
  | (k, _) :: rest => rest.any (fun e => same k e.1) || hasTwins rest

/-- The value of a plain scalar without a tag. -/
def ofPlain? (s : String) : Option Value :=
  if s = "" || isNullWord s then some null
  else
    match truthValue? s with
    | some b => some (truth b)
    | none =>
      match (integer? s).filter fits128 with
      | some n => if fits64 n then some (integer n) else none
      | none => some (((if isPadded s then none else real? s).map real).getD (text s))

/-- The value of a scalar; of a scalar without a tag, and of one with a local tag that is no text,
its form decides. -/
def ofScalar? (s : String) (style : ScalarStyle) (tag : Option Tag) : Option Value :=
  let ofForm? := if style = .plain then ofPlain? s else some (text s)
  match tag with
  | none => ofForm?
  | some tag =>
    if tag.isLocal then none
    else if tag = .null then if isNullWord s then some null else none
    else if tag = .truth then (truthValue? s).map truth
    else if tag = .integer then ((integer? s).filter fits64).map integer
    else if tag = .real then (real? s).map real
    else if tag.isMarked then ofForm?
    else some (text s)

end Value

/-- The value of a node in which collections are nested at most so deeply. -/
def Document.value? (d : Document) : Nat → Node → Resolving Value
  | 0, n => do
    match ← d.follow n with
    | .scalar s style tag => liftM (Value.ofScalar? s style tag)
    | _ => failure
  | depth + 1, n => do
    match ← d.follow n with
    | .aliasOf _ => failure
    | .scalar s style tag => liftM (Value.ofScalar? s style tag)
    | .sequence tag items => do
      if tag.any (·.isLocal) then failure
      .sequence <$> items.mapM (value? d depth)
    | .mapping tag entries => do
      if tag.any (·.isLocal) then failure
      let entries ← entries.mapM fun (k, v) => do
        pure (← value? d depth k, ← value? d depth v)
      if Value.hasTwins entries then failure
      pure (.mapping entries)

end IssueNotice.Yaml
