import IssueNotice.Yaml.Problem
import IssueNotice.Yaml.Token

/-!
# Places in a YAML text

Line breaks are brought to one form before a text is read: carriage return, line feed, both together
and next line are one line feed each; line separator and paragraph separator stay as they are. A
cursor is what is left of the text, with its line and column, and its place in bytes, of which only
the difference between two places on one line is ever asked for.

A simple key is a place where a key may have started that is only told by the colon behind it.
-/

namespace IssueNotice.Yaml

/-- Whether a character may stand in a YAML text. -/
def isAllowed (c : Char) : Bool :=
  let n := c.toNat
  n == 0x09 || n == 0x0a || n == 0x0d || (0x20 ≤ n && n ≤ 0x7e) || n == 0x85
    || (0xa0 ≤ n && n ≤ 0xd7ff) || (0xe000 ≤ n && n ≤ 0xfffd) || 0x10000 ≤ n

/-- The text with its line breaks in one form. -/
def unifyBreaks : List Char → List Char
  | '\r' :: '\n' :: cs => '\n' :: unifyBreaks cs
  | c :: cs => (if c = '\r' ∨ c = '\u0085' then '\n' else c) :: unifyBreaks cs
  | [] => []

/-- Whether a character ends a line. -/
def isBreak (c : Char) : Bool := c = '\n' || c = '\u2028' || c = '\u2029'

/-- Whether a character is a space or a tab. -/
def isSpace (c : Char) : Bool := c = ' ' || c = '\t'

/-- Whether nothing or a blank or a line break comes next. -/
def atBlank : List Char → Bool
  | [] => true
  | c :: _ => isSpace c || isBreak c

/-- Whether nothing or a line break comes next. -/
def atLineEnd : List Char → Bool
  | [] => true
  | c :: _ => isBreak c

/-- A place in a text. -/
structure Cursor where
  rest : List Char
  line : Nat := 0
  column : Nat := 0
  /-- Number of bytes in front. -/
  bytes : Nat := 0

namespace Cursor

/-- Behind a number of characters, none of which ends a line. -/
def skip (c : Cursor) (n : Nat) : Cursor :=
  { c with
    rest := c.rest.drop n
    column := c.column + n
    bytes := c.bytes + Text.byteLength (c.rest.take n) }

/-- Behind a line break. -/
def skipBreak (c : Cursor) : Cursor :=
  { c with rest := c.rest.drop 1, line := c.line + 1, column := 0, bytes := c.bytes + 1 }

/-- Behind the characters of a kind, and those characters. -/
def span (c : Cursor) (p : Char → Bool) : List Char × Cursor :=
  let taken := c.rest.takeWhile p
  (taken, c.skip taken.length)

/-- Whether a document marker stands here: three dashes or three points on a line of their own. -/
def atMarker (c : Cursor) (mark : Char) : Bool :=
  c.column = 0 && c.rest.take 3 == [mark, mark, mark] && atBlank (c.rest.drop 3)

/-- Whether a document ends or starts here. -/
def atDocumentMarker (c : Cursor) : Bool := c.atMarker '-' || c.atMarker '.'

end Cursor

/-- A place where a key may have started. -/
structure SimpleKey where
  /-- Number of tokens in front of it. -/
  token : Nat
  /-- Whether nothing but a key can stand there. -/
  required : Bool
  line : Nat
  column : Nat
  /-- Number of bytes in front of it. -/
  bytes : Nat

/-- How far a text was read into tokens. -/
structure Lexer where
  cursor : Cursor
  tokens : Array Token := #[]
  /-- Column of the block collection that is open, below zero outside of all. -/
  indent : Int := -1
  /-- Columns of the block collections around it. -/
  outer : List Int := []
  /-- Whether a key may start here. -/
  keyAllowed : Bool := true
  /-- The key that may have started in the block context. -/
  blockKey : Option SimpleKey := none
  /-- The same for each flow collection that is open, innermost first. -/
  flowKeys : List (Option SimpleKey) := []

/-- A step of reading tokens. -/
abbrev Lexing (α : Type) := StateT Lexer (Except Problem) α

namespace Lexer

/-- Whether a flow collection is open. -/
def inFlow (l : Lexer) : Bool := !l.flowKeys.isEmpty

/-- The key that may have started in the innermost collection. -/
def currentKey (l : Lexer) : Option SimpleKey :=
  match l.flowKeys with
  | key :: _ => key
  | [] => l.blockKey

/-- Replaces the key that may have started in the innermost collection. -/
def setKey (l : Lexer) (key : Option SimpleKey) : Lexer :=
  match l.flowKeys with
  | _ :: keys => { l with flowKeys := key :: keys }
  | [] => { l with blockKey := key }

end Lexer

/-- What is left of the text. -/
def ahead : Lexing (List Char) := do
  pure (← get).cursor.rest

/-- Moves the cursor. -/
def moveTo (c : Cursor) : Lexing Unit := modify fun l => { l with cursor := c }

/-- Skips a number of characters, none of which ends a line. -/
def skip (n : Nat) : Lexing Unit := modify fun l => { l with cursor := l.cursor.skip n }

/-- Takes the characters of a kind. -/
def takeWhile (p : Char → Bool) : Lexing (List Char) := do
  let (taken, c) := (← get).cursor.span p
  moveTo c
  pure taken

/-- Adds a token at the end. -/
def emit (t : Token) : Lexing Unit := modify fun l => { l with tokens := l.tokens.push t }

/-- Adds a token in front of a place. -/
def emitAt (place : Nat) (t : Token) : Lexing Unit :=
  modify fun l => { l with tokens := l.tokens.insertIdxIfInBounds place t }

/-- Says whether a key may start behind what was just read. -/
def allowKey (allowed : Bool) : Lexing Unit := modify fun l => { l with keyAllowed := allowed }

end IssueNotice.Yaml
