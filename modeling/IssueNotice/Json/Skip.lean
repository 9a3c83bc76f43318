import IssueNotice.Json.Reading

/-!
# Skipping JSON values

A value that nobody asked for is skipped, but has to be JSON. Lists and objects may be nested to any
depth: those still open are kept on a stack. Numbers are checked for their form only, and strings
may hold lone surrogates.
-/

namespace IssueNotice.Json

/-- Skips at least one digit. -/
def skipDigits : Reading Unit := do
  match ← get with
  | [] => throw .invalidNumber
  | c :: _ => if !c.isDigit then throw .invalidNumber
  modify (·.dropWhile Char.isDigit)

/-- Skips an exponent if there is one. -/
def skipExponent : Reading Unit := do
  let cs ← get
  if cs.head? = some 'e' ∨ cs.head? = some 'E' then
    let cs := cs.drop 1
    set (if cs.head? = some '+' ∨ cs.head? = some '-' then cs.drop 1 else cs)
    skipDigits

/-- Skips a number, after its sign. -/
def skipNumber : Reading Unit := do
  match ← get with
  | '0' :: rest => do
    if rest.head?.any Char.isDigit then throw .invalidNumber
    set rest
  | _ => skipDigits
  match ← get with
  | '.' :: rest => do
    set rest
    skipDigits
  | _ => pure ()
  skipExponent

/-- A list or object that is still open. -/
inductive Frame where
  | list
  | object
  deriving Repr, DecidableEq

namespace Frame

/-- The end of input in a list or object. -/
def atEnd : Frame → Problem
  | list => .endInList
  | object => .endInObject

/-- What is missing after an item of a list or object. -/
def expectedComma : Frame → Problem
  | list => .expectedCommaOrBracket
  | object => .expectedCommaOrBrace

/-- The bracket that closes a list or object. -/
def closing : Frame → Char
  | list => ']'
  | object => '\x7d'

end Frame

/-- Skips a key and its colon, if the value to come stands in an object. -/
def skipKey : Frame → Reading Unit
  | .list => pure ()
  | .object => do
    match ← peek with
    | some '"' => drop
    | some _ => throw .keyNotString
    | none => throw .endInObject
    skipStringTail
    match ← peek with
    | some ':' => drop
    | some _ => throw .expectedColon
    | none => throw .endInObject

/-- Skips a value that is neither list nor object, or opens a list or object. -/
def skipStart : Reading (Option Frame) := do
  let next ← peek
  match next with
  | none => throw .endInValue
  | some c =>
    if c = '[' then do
      drop
      pure (some .list)
    else if c = '\x7b' then do
      drop
      pure (some .object)
    else do
      if c = 'n' then word "null"
      else if c = 't' then word "true"
      else if c = 'f' then word "false"
      else if c = '"' then do
        drop
        skipStringTail
      else if c = '-' then do
        drop
        skipNumber
      else if c.isDigit then skipNumber
      else throw .expectedValue
      pure none

/--
Goes on behind a value that was skipped: closes what ends there, up to a comma that another value
follows. Gives what is still open, which is nothing at the end.
-/
def skipClosings : List Frame → Reading (List Frame)
  | [] => pure []
  | frame :: outer => do
    match ← peek with
    | none => throw frame.atEnd
    | some c =>
      if c = frame.closing then do
        drop
        skipClosings outer
      else do
        if c ≠ ',' then throw frame.expectedComma
        drop
        skipKey frame
        pure (frame :: outer)

/-- Skips within some open lists and objects, from the start of a value to the start of the next. -/
def skipStep (frames : List Frame) : Reading (List Frame) := do
  match ← skipStart with
  | none => skipClosings frames
  | some frame =>
    match ← peek with
    | none => throw frame.atEnd
    | some c =>
      if c = frame.closing then do
        drop
        skipClosings frames
      else do
        skipKey frame
        pure (frame :: frames)

/-- Skips up to the end of what is open, in at most as many steps as a text has characters. -/
def skipSteps : List Char → List Frame → Reading Unit
  | [], _ => throw .endInValue
  | _ :: text, frames => do
    let frames ← skipStep frames
    if !frames.isEmpty then skipSteps text frames

/-- Skips a value. A step takes at least one character, so that the text itself is long enough. -/
def skipValue : Reading Unit := do
  skipSteps (← get) []

end IssueNotice.Json
