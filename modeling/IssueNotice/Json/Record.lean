import IssueNotice.Json.Number
import IssueNotice.Json.Skip

/-!
# Reading records

JSON values are read against the kind that is expected. A record is written as an object, or as a
list of its fields in order. In an object the fields may come in any order, each at most once, and
unknown ones are skipped. In a list, fields with a default may be missing at the end.

Brackets may be nested up to a budget; skipped values do not count.
-/

namespace IssueNotice.Json

/-- Number of brackets that may be open at once, and one more. -/
abbrev depthBudget : Nat := 128

/-- The value that comes next, as far as a message names it. -/
def found : Reading Found := do
  match ← peek with
  | none => throw .endInValue
  | some c =>
    if c = 'n' then do
      word "null"
      pure .null
    else if c = 't' then do
      word "true"
      pure (.boolean true)
    else if c = 'f' then do
      word "false"
      pure (.boolean false)
    else if c = '"' then do
      drop
      pure (.text (← stringTail))
    else if c = '[' then pure .list
    else if c = '\x7b' then pure .object
    else if c = '-' ∨ c.isDigit then pure (← number).found
    else throw .expectedValue

/-- Ends with the value that stands where another kind was expected. -/
def wrongType {α : Type} (expected : String) : Reading α := do
  throw (.wrongType (← found) expected)

/-- A string. -/
def text : Reading String := do
  match ← peek with
  | some '"' => do
    drop
    stringTail
  | _ => wrongType "a string"

/-- True or false. -/
def flag : Reading Bool := do
  match ← peek with
  | some 't' => do
    word "true"
    pure true
  | some 'f' => do
    word "false"
    pure false
  | _ => wrongType "a boolean"

/-- A count of 64 bits. -/
def count : Reading Nat := do
  let next ← peek
  if next.any fun c => c = '-' || c.isDigit then
    match ← number with
    | .integer (.ofNat n) => pure n
    | .integer n => throw (.wrongValue (.integer n) "u64")
    | n => throw (.wrongType n.found "u64")
  else wrongType "u64"

/-- An instant. -/
def instant : Reading Instant := do
  match ← peek with
  | some '"' => do
    drop
    match Instant.ofText (← stringTail) with
    | .ok t => pure t
    | .error e => throw (.badInstant e)
  | _ => wrongType "an RFC 3339 formatted date and time string"

/-- A value, or nothing for null. -/
def optional {α : Type} (read : Reading α) : Reading (Option α) := do
  match ← peek with
  | some 'n' => do
    word "null"
    pure none
  | _ => some <$> read

/-! ## Lists -/

/-- Whether a list goes on, at its start or behind an item. -/
def moreItems (atStart : Bool) : Reading Bool := do
  match ← peek with
  | none => throw .endInList
  | some ']' => pure false
  | some c =>
    if atStart then pure true
    else if c ≠ ',' then throw .expectedCommaOrBracket
    else
      drop
      match ← peek with
      | none => throw .endInValue
      | some ']' => throw .trailingComma
      | some _ => pure true

/-- The end of a list. -/
def closeList : Reading Unit := do
  match ← peek with
  | none => throw .endInList
  | some ']' => drop
  | some ',' => do
    drop
    if (← peek) = some ']' then throw .trailingComma
    throw .trailingCharacters
  | some _ => throw .trailingCharacters

/--
The items of a list, at most as many as a text has characters. An item takes a character at least,
so that the text from the opening bracket on is long enough.
-/
def items {α : Type} (read : Reading α) : List Char → Bool → Reading (List α)
  | [], _ => pure []
  | _ :: text, atStart => do
    if ← moreItems atStart then do
      let a ← read
      let rest ← items read text false
      pure (a :: rest)
    else pure []

/-- A list, with a budget of brackets for it and its items. -/
def list {α : Type} (budget : Nat) (read : Reading α) : Reading (List α) := do
  match ← peek with
  | some '[' => do
    if budget ≤ 1 then throw .tooDeep
    let text ← get
    drop
    let as ← items read text true
    closeList
    pure as
  | _ => wrongType "a sequence"

/-! ## Records -/

/-- A field of a record that is gathered in `σ`. -/
structure Field (σ : Type) where
  name : String
  /-- Whether the field may be missing at the end of a list. -/
  hasDefault : Bool
  isFilled : σ → Bool
  /-- Reads the value of the field. -/
  read : Reading (σ → σ)

namespace Field

variable {σ β : Type}

/-- A field, from where its value is gathered. -/
def of (name : String) (hasDefault : Bool) (get : σ → Option β) (fill : β → σ → σ)
    (read : Reading β) : Field σ where
  name := name
  hasDefault := hasDefault
  isFilled s := (get s).isSome
  read := fill <$> read

end Field

/-- A record: its name in messages, its fields in order, and how the gathered values make it up. -/
structure Shape (σ α : Type) where
  name : String
  fields : List (Field σ)
  empty : σ
  /-- The record; fields that have to be there and are not are a problem. -/
  finish : σ → Except Problem α

/-- The value of a field that has to be there. -/
def present {β : Type} (name : String) : Option β → Except Problem β
  | some b => .ok b
  | none => .error (.missingField name)

namespace Shape

variable {σ α : Type} (shape : Shape σ α)

/-- The fields of a record written as a list, from the one at an index on. -/
def readListed : List (Field σ) → Nat → Bool → σ → Reading σ
  | [], _, _, s => pure s
  | field :: rest, index, atStart, s => do
    if ← moreItems atStart then do
      let fill ← field.read
      readListed rest (index + 1) false (fill s)
    else if field.hasDefault then readListed rest (index + 1) atStart s
    else throw (.wrongLength index shape.name shape.fields.length)

/-- Whether an object goes on, at its start or behind a field; then its key is next. -/
def moreKeys (atStart : Bool) : Reading Bool := do
  match ← peek with
  | none => throw .endInObject
  | some '\x7d' => pure false
  | some c =>
    if atStart then
      if c ≠ '"' then throw .keyNotString
      pure true
    else if c ≠ ',' then throw .expectedCommaOrBrace
    else
      drop
      match ← peek with
      | none => throw .endInValue
      | some '"' => pure true
      | some '\x7d' => throw .trailingComma
      | some _ => throw .keyNotString

/-- The colon behind a key. -/
def colon : Reading Unit := do
  match ← peek with
  | none => throw .endInObject
  | some ':' => drop
  | some _ => throw .expectedColon

/-- A field of an object, from its key on. -/
def readKeyed (s : σ) : Reading σ := do
  drop
  let key ← stringTail
  match shape.fields.find? fun field => field.name == key with
  | none => do
    colon
    skipValue
    pure s
  | some field => do
    if field.isFilled s then throw (.duplicateField field.name)
    colon
    let fill ← field.read
    pure (fill s)

/--
The fields of an object, at most as many as a text has characters. A field takes a character at
least, so that the text from the opening brace on is long enough.
-/
def readFields : List Char → Bool → σ → Reading σ
  | [], _, s => pure s
  | _ :: text, atStart, s => do
    if ← moreKeys atStart then do
      let s ← readKeyed shape s
      readFields text false s
    else pure s

/-- A record, with a budget of brackets for it and its fields. -/
def read (budget : Nat) : Reading α := do
  match ← peek with
  | some '[' => do
    if budget ≤ 1 then throw .tooDeep
    drop
    let s ← shape.readListed shape.fields 0 true shape.empty
    let a ← liftM (shape.finish s)
    closeList
    pure a
  | some '\x7b' => do
    if budget ≤ 1 then throw .tooDeep
    let text ← get
    drop
    let s ← shape.readFields text true shape.empty
    let a ← liftM (shape.finish s)
    drop
    pure a
  | _ => wrongType s!"struct {shape.name}"

end Shape

/-- The whole of a text. -/
def whole {α : Type} (read : Reading α) (s : String) : Except Problem α := do
  let (a, rest) ← read.run s.toList
  if (rest.dropWhile isBlank).isEmpty then pure a else throw .trailingCharacters

end IssueNotice.Json
