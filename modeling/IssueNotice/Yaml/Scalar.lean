import IssueNotice.Yaml.Cursor

/-!
# YAML scalars

The four ways of writing a scalar: plain, in single quotes, in double quotes with escapes, and as a
block that keeps or folds its lines. A line break inside a scalar becomes a blank, and each empty
line behind it a line break.

The characters of a scalar are gathered newest first. What repeats takes a character at least each
time and recurses on a text that is no shorter than what is left to read.
-/

namespace IssueNotice.Yaml

/-- Blanks and line breaks between two words of a scalar. -/
structure Gap where
  /-- Blanks, as long as no line ended. -/
  spaces : List Char := []
  /-- The first line break. -/
  first : Option Char := none
  /-- The line breaks behind the first, newest first. -/
  more : List Char := []
  /-- Whether a line ended. -/
  lineEnded : Bool := false

/-- A text with what a line break and the ones behind it stand for when lines are folded. -/
def addFolded (text : List Char) (first : Option Char) (more : List Char) : List Char :=
  if first = some '\n' then if more.isEmpty then ' ' :: text else more ++ text
  else more ++ (first.toList ++ text)

/-- A text with what a gap stands for. -/
def Gap.addTo (g : Gap) (text : List Char) : List Char :=
  if g.lineEnded then addFolded text g.first g.more else g.spaces ++ text

/-- Adds a line break to a gap. -/
def Gap.addBreak (g : Gap) (c : Char) : Gap :=
  if g.lineEnded then { g with more := c :: g.more }
  else { g with spaces := [], first := some c, lineEnded := true }

/-- Takes a gap; no tab may stand left of a column in a line that ends no word. -/
def takeGap (indent : Option Int) : List Char → Gap → Cursor → Except Problem (Gap × Cursor)
  | [], g, c => .ok (g, c)
  | _ :: bound, g, c =>
    match c.rest with
    | [] => .ok (g, c)
    | d :: _ =>
      if isSpace d then
        if g.lineEnded && d == '\t' && indent.any fun i => (c.column : Int) < i then
          .error .tabInIndentation
        else
          takeGap indent bound
            (if g.lineEnded then g else { g with spaces := d :: g.spaces }) (c.skip 1)
      else if isBreak d then takeGap indent bound (g.addBreak d) c.skipBreak
      else .ok (g, c)

/-! ## Plain scalars -/

/-- Whether a character closes or parts flow collections. -/
def isFlowMark (c : Char) : Bool :=
  c = ',' || c = '[' || c = ']' || c = '\x7b' || c = '\x7d'

/-- A word of a plain scalar. -/
def plainWord (inFlow : Bool) : List Char → Except Problem (List Char)
  | [] => .ok []
  | c :: rest =>
    if isSpace c || isBreak c then .ok []
    else if inFlow && c == ':' && rest.head?.any fun d => isFlowMark d || d == '?' then
      .error .unexpectedColon
    else if c == ':' && atBlank rest then .ok []
    else if inFlow && isFlowMark c then .ok []
    else do
      let word ← plainWord inFlow rest
      .ok (c :: word)

/-- A plain scalar from a gap on; answers its text and whether a line ended behind it. -/
def plainWords (inFlow : Bool) (indent : Int) :
    List Char → List Char → Gap → Cursor → Except Problem (List Char × Bool × Cursor)
  | [], text, g, c => .ok (text, g.lineEnded, c)
  | _ :: bound, text, g, c => do
    if c.atDocumentMarker || c.rest.head? == some '#' then
      return (text, g.lineEnded, c)
    let word ← plainWord inFlow c.rest
    let text := if word.isEmpty then text else word.reverse ++ g.addTo text
    let g := if word.isEmpty then g else {}
    let c := c.skip word.length
    if c.rest.isEmpty || !atBlank c.rest then
      return (text, g.lineEnded, c)
    let (g, c) ← takeGap (some indent) c.rest g c
    if !inFlow && (c.column : Int) < indent then
      return (text, g.lineEnded, c)
    plainWords inFlow indent bound text g c

/-- A plain scalar; a key may start behind it if a line ended. -/
def plainScalar : Lexing String := do
  let l ← get
  let (text, lineEnded, c) ←
    liftM (plainWords l.inFlow (l.indent + 1) l.cursor.rest [] {} l.cursor)
  moveTo c
  if lineEnded then allowKey true
  pure (String.ofList text.reverse)

/-! ## Quoted scalars -/

/-- The character with a code in hexadecimal digits. -/
def codePoint? (digits : List Char) : Option Char := do
  let n ← digits.foldlM (fun n c => do pure (16 * n + (← Text.hexValue? c))) 0
  if n ≤ 0x10ffff ∧ ¬(0xd800 ≤ n ∧ n ≤ 0xdfff) then some (Char.ofNat n) else none

/-- The character of an escape with one letter. -/
def simpleEscape? : Char → Option Char
  | '0' => some '\x00'
  | 'a' => some '\x07'
  | 'b' => some '\x08'
  | 't' => some '\t'
  | '\t' => some '\t'
  | 'n' => some '\n'
  | 'v' => some '\x0b'
  | 'f' => some '\x0c'
  | 'r' => some '\r'
  | 'e' => some '\x1b'
  | ' ' => some ' '
  | '"' => some '"'
  | '/' => some '/'
  | '\\' => some '\\'
  | 'N' => some '\u0085'
  | '_' => some '\u00a0'
  | 'L' => some '\u2028'
  | 'P' => some '\u2029'
  | _ => none

/-- Number of hexadecimal digits behind the letter of an escape. -/
def escapeDigits : Char → Nat
  | 'x' => 2
  | 'u' => 4
  | 'U' => 8
  | _ => 0

/-- An escape after its backslash: its character and its length. -/
def escape : List Char → Except Problem (Char × Nat)
  | [] => .error .badEscape
  | c :: rest =>
    match simpleEscape? c with
    | some d => .ok (d, 1)
    | none =>
      let n := escapeDigits c
      let digits := rest.take n
      if n = 0 ∨ digits.length < n then .error .badEscape
      else
        match codePoint? digits with
        | some d => .ok (d, n + 1)
        | none => .error .badEscape

/-- Where a word of a quoted scalar ends. -/
inductive WordEnd where
  | quote
  | blank
  /-- An escaped line break. -/
  | escapedBreak

/-- The text of a quoted scalar with one more word, and how the word ends. -/
def quotedWord (single : Bool) :
    List Char → List Char → Cursor → Except Problem (List Char × WordEnd × Cursor)
  | [], text, c => .ok (text, .blank, c)
  | _ :: bound, text, c =>
    match c.rest with
    | [] => .ok (text, .blank, c)
    | d :: rest =>
      if isSpace d || isBreak d then .ok (text, .blank, c)
      else if single && d == '\x27' then
        if rest.head? == some '\x27' then quotedWord single bound (d :: text) (c.skip 2)
        else .ok (text, .quote, c)
      else if !single && d == '"' then .ok (text, .quote, c)
      else if !single && d == '\\' then
        if rest.head?.any isBreak then .ok (text, .escapedBreak, (c.skip 1).skipBreak)
        else do
          let (e, n) ← escape rest
          quotedWord single bound (e :: text) (c.skip (n + 1))
      else quotedWord single bound (d :: text) (c.skip 1)

/-- A quoted scalar from a word on. -/
def quotedWords (single : Bool) :
    List Char → List Char → Cursor → Except Problem (List Char × Cursor)
  | [], _, _ => .error .unfinishedQuote
  | _ :: bound, text, c => do
    if c.atDocumentMarker || c.rest.isEmpty then
      throw .unfinishedQuote
    let (text, wordEnd, c) ← quotedWord single c.rest text c
    match wordEnd with
    | .quote => pure (text, c.skip 1)
    | .blank =>
      let (g, c) ← takeGap none c.rest {} c
      quotedWords single bound (g.addTo text) c
    | .escapedBreak =>
      if c.rest.head? = some (if single then '\x27' else '"') then
        pure (text, c.skip 1)
      else
        let (g, c) ← takeGap none c.rest { lineEnded := true } c
        quotedWords single bound (g.addTo text) c

/-- A quoted scalar. -/
def quotedScalar (single : Bool) : Lexing String := do
  let c := (← get).cursor.skip 1
  let (text, c) ← liftM (quotedWords single c.rest [] c)
  moveTo c
  pure (String.ofList text.reverse)

/-! ## Block scalars -/

/-- What becomes of the line breaks at the end of a block scalar. -/
inductive Chomping where
  | strip
  | clip
  | keep
  deriving DecidableEq

/-- The chomping that an indicator asks for. -/
def chomping? : Option Char → Option Chomping
  | some '+' => some .keep
  | some '-' => some .strip
  | _ => none

/-- The indentation that an indicator asks for. -/
def increment? : Option Char → Option Nat
  | some c => if c.isDigit then some (c.toNat - '0'.toNat) else none
  | none => none

/-- Chomping and indentation of a block scalar, in either order. -/
def blockIndicators : Lexing (Chomping × Option Nat) := do
  let cs ← ahead
  let (chomping, increment, n) :=
    match chomping? cs.head?, increment? cs.head? with
    | some ch, _ =>
      match increment? cs[1]? with
      | some i => (ch, some i, 2)
      | none => (ch, none, 1)
    | none, some i =>
      match chomping? cs[1]? with
      | some ch => (ch, some i, 2)
      | none => (.clip, some i, 1)
    | none, none => (.clip, none, 0)
  if increment = some 0 then throw .badBlockHeader
  skip n
  pure (chomping, increment)

/-- Takes empty lines and indentation; answers the line breaks and the deepest column seen. -/
def blockBreaks (indent : Option Nat) :
    List Char → List Char → Nat → Cursor → Except Problem (List Char × Nat × Cursor)
  | [], breaks, deepest, c => .ok (breaks, max deepest c.column, c)
  | _ :: bound, breaks, deepest, c =>
    let spaces := (c.rest.takeWhile (· == ' ')).length
    let c := c.skip ((indent.map fun i => min spaces (i - c.column)).getD spaces)
    let deepest := max deepest c.column
    match c.rest with
    | [] => .ok (breaks, deepest, c)
    | d :: _ =>
      if d == '\t' && indent.all fun i => c.column < i then .error .tabInIndentation
      else if isBreak d then blockBreaks indent bound (d :: breaks) deepest c.skipBreak
      else .ok (breaks, deepest, c)

/-- The lines of a block scalar, with its text so far and the breaks behind it. -/
def blockLines (literal : Bool) (indent : Nat) :
    List Char → List Char → Option Char → List Char → Bool → Cursor →
      Except Problem (List Char × Option Char × List Char × Cursor)
  | [], text, first, more, _, c => .ok (text, first, more, c)
  | _ :: bound, text, first, more, afterBlank, c => do
    if c.column ≠ indent || c.rest.isEmpty then
      return (text, first, more, c)
    let startsBlank := c.rest.head?.any isSpace
    let folded := !literal && !afterBlank && !startsBlank
    let text := if folded then addFolded text first more else more ++ (first.toList ++ text)
    let (line, c) := c.span fun d => !isBreak d
    let text := line.reverse ++ text
    let first := c.rest.head?
    let c := if first.isSome then c.skipBreak else c
    let (more, _, c) ← blockBreaks (some indent) c.rest [] 0 c
    blockLines literal indent bound text first more startsBlank c

/-- A block scalar, whose lines are kept or folded. -/
def blockScalar (literal : Bool) : Lexing String := do
  skip 1
  let (chomping, increment) ← blockIndicators
  let _ ← takeWhile isSpace
  if (← ahead).head? = some '#' then
    let _ ← takeWhile fun c => !isBreak c
  if !atLineEnd (← ahead) then throw .badBlockHeader
  if !(← ahead).isEmpty then modify fun l => { l with cursor := l.cursor.skipBreak }
  let l ← get
  let parent := l.indent
  let given := increment.map fun i => (if 0 ≤ parent then parent.toNat else 0) + i
  let (breaks, deepest, c) ← liftM (blockBreaks given l.cursor.rest [] 0 l.cursor)
  let indent := given.getD (max deepest (max (parent + 1).toNat 1))
  let (text, first, more, c) ←
    liftM (blockLines literal indent c.rest [] none breaks false c)
  moveTo c
  let text := if chomping = .strip then text else first.toList ++ text
  let text := if chomping = .keep then more ++ text else text
  pure (String.ofList text.reverse)

end IssueNotice.Yaml
