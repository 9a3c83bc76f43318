import IssueNotice.Json.Problem
import IssueNotice.Text.Bytes

/-!
# Reading JSON

JSON is read from the front, one step after another; the first problem in the text ends the reading.
This module holds the steps that all kinds of value share: blanks, words, and strings with their
escapes.
-/

namespace IssueNotice.Json

/-- A step of reading: takes characters off the front of the text. -/
abbrev Reading (α : Type) := StateT (List Char) (Except Problem) α

/-- The four blanks of JSON. -/
def isBlank (c : Char) : Bool := c = ' ' || c = '\n' || c = '\t' || c = '\r'

/-- Skips blanks and shows what comes next. -/
def peek : Reading (Option Char) := do
  modify (·.dropWhile isBlank)
  pure (← get).head?

/-- Drops the next character. -/
def drop : Reading Unit := modify (·.drop 1)

/-- The letters of a word. -/
def letters : List Char → Reading Unit
  | [] => pure ()
  | c :: rest => do
    match ← get with
    | [] => throw .endInValue
    | d :: cs => if d = c then set cs else throw .expectedWord
    letters rest

/-- A word. -/
def word (w : String) : Reading Unit := letters w.toList

/-! ## Strings -/

/-- The value of four hexadecimal digits. -/
def hexValue4? (a b c d : Char) : Option Nat := do
  let high := (← Text.hexValue? a) * 16 + (← Text.hexValue? b)
  let low := (← Text.hexValue? c) * 16 + (← Text.hexValue? d)
  pure (high * 256 + low)

/-- A value read off the front of a text, and the rest, which is shorter. -/
abbrev Shorter (cs : List Char) (α : Type) := { r : α × List Char // r.2.length < cs.length }

/-- Four hexadecimal digits. -/
def hex4 (cs : List Char) : Except Problem (Shorter cs Nat) :=
  match cs with
  | a :: b :: c :: d :: rest =>
    match hexValue4? a b c d with
    | some n => .ok ⟨(n, rest), by simp only [List.length_cons]; omega⟩
    | none => .error .invalidEscape
  | cs => .error (if Text.byteLength cs < 4 then .endInString else .invalidEscape)

/-- The character for the letter of a one-letter escape. -/
def simpleEscape? : Char → Option Char
  | '"' => some '"'
  | '\\' => some '\\'
  | '/' => some '/'
  | 'b' => some '\x08'
  | 'f' => some '\x0c'
  | 'n' => some '\n'
  | 'r' => some '\r'
  | 't' => some '\t'
  | _ => none

/-- The second half of a surrogate pair, with its backslash. -/
def trailingSurrogate (high : Nat) (cs : List Char) : Except Problem (Shorter cs Char) :=
  match cs with
  | [] => .error .endInString
  | '\\' :: cs =>
    match cs with
    | [] => .error .endInString
    | 'u' :: cs => do
      let ⟨(low, rest), h⟩ ← hex4 cs
      if 0xdc00 ≤ low ∧ low ≤ 0xdfff then
        .ok ⟨(Char.ofNat ((high - 0xd800) * 0x400 + (low - 0xdc00) + 0x10000), rest),
          by simp only [List.length_cons] at h ⊢; omega⟩
      else .error .loneSurrogate
    | _ => .error .unfinishedSurrogatePair
  | _ => .error .unfinishedSurrogatePair

/-- An escaped code point, after the letter `u`; surrogates come in pairs. -/
def codePoint (cs : List Char) : Except Problem (Shorter cs Char) := do
  let ⟨(n, rest), h⟩ ← hex4 cs
  if 0xdc00 ≤ n ∧ n ≤ 0xdfff then .error .loneSurrogate
  else if 0xd800 ≤ n ∧ n ≤ 0xdbff then
    let ⟨(c, rest), h'⟩ ← trailingSurrogate n rest
    .ok ⟨(c, rest), Nat.lt_trans h' h⟩
  else .ok ⟨(Char.ofNat n, rest), h⟩

/-- An escape, after its backslash. -/
def escape (cs : List Char) : Except Problem (Shorter cs Char) :=
  match cs with
  | [] => .error .endInString
  | c :: rest =>
    if c = 'u' then do
      let ⟨(c, rest'), h⟩ ← codePoint rest
      .ok ⟨(c, rest'), by simp only [List.length_cons] at h ⊢; omega⟩
    else
      match simpleEscape? c with
      | some c => .ok ⟨(c, rest), by simp⟩
      | none => .error .invalidEscape

/-- An escape of a string that is skipped: the four digits may be any. -/
def skippedEscape (cs : List Char) : Except Problem (Shorter cs Char) :=
  match cs with
  | [] => .error .endInString
  | c :: rest =>
    if c = 'u' then do
      let ⟨(_, rest'), h⟩ ← hex4 rest
      .ok ⟨(c, rest'), by simp only [List.length_cons] at h ⊢; omega⟩
    else
      match simpleEscape? c with
      | some c => .ok ⟨(c, rest), by simp⟩
      | none => .error .invalidEscape

/-- The characters up to the closing quote, newest first, and the rest. -/
def stringChars (escape : (cs : List Char) → Except Problem (Shorter cs Char))
    (read : List Char) (cs : List Char) : Except Problem (List Char × List Char) :=
  match cs with
  | [] => .error .endInString
  | c :: rest =>
    if c = '"' then .ok (read, rest)
    else if c = '\\' then
      match escape rest with
      | .ok ⟨(c, rest'), h⟩ =>
        have : rest'.length < rest.length := h
        stringChars escape (c :: read) rest'
      | .error e => .error e
    else if c.toNat < 0x20 then .error .controlCharacter
    else stringChars escape (c :: read) rest
termination_by cs.length

/-- A string, after its opening quote. -/
def stringTail : Reading String := fun cs =>
  (stringChars escape [] cs).map fun (read, rest) => (String.ofList read.reverse, rest)

/-- Skips a string, after its opening quote. -/
def skipStringTail : Reading Unit := fun cs =>
  (stringChars skippedEscape [] cs).map fun (_, rest) => ((), rest)

end IssueNotice.Json
