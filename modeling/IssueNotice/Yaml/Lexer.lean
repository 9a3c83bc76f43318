import IssueNotice.Yaml.Scalar

/-!
# YAML text as tokens

Tokens are read from the front, one kind after another by its first characters. Block collections
open where a line is indented deeper than before and close where one is indented less deep. A key
token is put in front of what was read when the colon behind it is found, on the same line and not
too far away.
-/

namespace IssueNotice.Yaml

/-! ## Keys and indentation -/

/-- Most bytes that a key may take. -/
def maxKeyLength : Nat := 1024

/-- Whether a key that may have started can still be ended by a colon here. -/
def SimpleKey.isLive (key : SimpleKey) (c : Cursor) : Bool :=
  key.line == c.line && c.bytes ≤ key.bytes + maxKeyLength

/-- Forgets a key of the block context that can no longer be one. -/
def dropStaleKey : Lexing Unit := do
  let l ← get
  if l.blockKey.any fun key => !key.isLive l.cursor then
    if l.blockKey.any (·.required) then throw .keyWithoutColon
    set { l with blockKey := none }

/-- Forgets the key that may have started in the innermost collection. -/
def dropKey : Lexing Unit := do
  let l ← get
  if l.currentKey.any (·.required) then throw .keyWithoutColon
  set (l.setKey none)

/-- Notes that a key may start here. -/
def noteKey : Lexing Unit := do
  let l ← get
  if l.keyAllowed then
    dropKey
    let c := l.cursor
    let required := !l.inFlow && l.indent == (c.column : Int)
    modify (·.setKey (some ⟨l.tokens.size, required, c.line, c.column, c.bytes⟩))

/-- Whether a column opens a block collection. -/
def Lexer.opensBlock (l : Lexer) (column : Nat) : Bool :=
  !l.inFlow && l.indent < (column : Int)

/-- Indents to a column, if it is deeper. -/
def indentTo (column : Nat) : Lexing Unit :=
  modify fun l =>
    if l.opensBlock column then { l with indent := column, outer := l.indent :: l.outer } else l

/-- Closes the block collections that are deeper than a column, outermost last. -/
def closeBlocks (column : Int) : Int → List Int → Lexing Unit
  | indent, [] => modify fun l => { l with indent, outer := [] }
  | indent, next :: outer => do
    if column < indent then
      emit .blockEnd
      closeBlocks column next outer
    else modify fun l => { l with indent, outer := next :: outer }

/-- Goes back to a column, unless a flow collection is open. -/
def unindentTo (column : Int) : Lexing Unit := do
  let l ← get
  if !l.inFlow then closeBlocks column l.indent l.outer

/-! ## Tokens by kind -/

/-- A document marker. -/
def lexMarker (t : Token) : Lexing Unit := do
  unindentTo (-1)
  dropKey
  allowKey false
  skip 3
  emit t

/-- Opens a flow collection. -/
def lexOpen (t : Token) : Lexing Unit := do
  noteKey
  modify fun l => { l with flowKeys := none :: l.flowKeys }
  allowKey true
  skip 1
  emit t

/-- Closes a flow collection. -/
def lexClose (t : Token) : Lexing Unit := do
  dropKey
  modify fun l => { l with flowKeys := l.flowKeys.drop 1 }
  allowKey false
  skip 1
  emit t

/-- A comma between items of a flow collection. -/
def lexComma : Lexing Unit := do
  dropKey
  allowKey true
  skip 1
  emit .comma

/-- A token of a block context, which opens a block collection where it is indented deeper. -/
def openBlockFor (t : Token) (notAllowed : Problem) : Lexing Unit := do
  let l ← get
  if !l.inFlow then
    if !l.keyAllowed then throw notAllowed
    if l.opensBlock l.cursor.column then emit t
    indentTo l.cursor.column

/-- The dash of an entry. -/
def lexEntry : Lexing Unit := do
  openBlockFor .blockSequence .entryNotAllowed
  dropKey
  allowKey true
  skip 1
  emit .entry

/-- The question mark of a key. -/
def lexKey : Lexing Unit := do
  openBlockFor .blockMapping .keyNotAllowed
  dropKey
  allowKey (!(← get).inFlow)
  skip 1
  emit .key

/-- The colon in front of a value. -/
def lexValue : Lexing Unit := do
  let l ← get
  match l.currentKey.filter (·.isLive l.cursor) with
  | some key =>
    emitAt key.token .key
    if l.opensBlock key.column then emitAt key.token .blockMapping
    indentTo key.column
    modify (·.setKey none)
    allowKey false
  | none =>
    openBlockFor .blockMapping .valueNotAllowed
    allowKey (!l.inFlow)
  skip 1
  emit .value

/-- Whether a character may stand in a name. -/
def isNameChar (c : Char) : Bool := c.isAlphanum || c = '_' || c = '-'

/-- An alias or an anchor. -/
def lexName (t : String → Token) : Lexing Unit := do
  noteKey
  allowKey false
  skip 1
  let name ← takeWhile isNameChar
  let cs ← ahead
  let ended := atBlank cs || cs.head?.any fun c => "?:,]\x7d%@`".contains c
  if name.isEmpty || !ended then throw .badAnchor
  emit (t (String.ofList name))

/-- Whether a character may stand in a tag. -/
def isTagChar (verbatim : Bool) (c : Char) : Bool :=
  isNameChar c || ";/?:@&=+$.!~*\x27()%".contains c || (verbatim && (c = ',' || c = '[' || c = ']'))

/-- The name that is written in some characters, of which there has to be one. -/
def tagName (cs : List Char) : Lexing Tag := do
  match Tag.ofWritten? cs with
  | some name => if cs.isEmpty then throw .badTag else pure name
  | none => throw .badTag

/-- A tag. -/
def lexTag : Lexing Unit := do
  noteKey
  allowKey false
  let cs ← ahead
  if cs[1]? = some '<' then
    skip 2
    let name ← tagName (← takeWhile (isTagChar true))
    if (← ahead).head? ≠ some '>' then throw .badTag
    skip 1
    emit (.tag "" name)
  else
    skip 1
    let word ← takeWhile isNameChar
    if (← ahead).head? = some '!' then
      skip 1
      let suffix ← tagName (← takeWhile (isTagChar false))
      emit (.tag ("!" ++ String.ofList word ++ "!") suffix)
    else
      let name ← tagName ('!' :: word ++ (← takeWhile (isTagChar false)))
      emit (if name = .nonSpecific then .tag "" name else .tag "!" ⟨name.bytes.drop 1⟩)
  let cs ← ahead
  if !atBlank cs && !((← get).inFlow && cs.head? = some ',') then throw .badTag

/-- A block scalar. -/
def lexBlockScalar (literal : Bool) : Lexing Unit := do
  dropKey
  allowKey true
  let text ← blockScalar literal
  emit (.scalar text (if literal then .literal else .folded))

/-- A quoted scalar. -/
def lexQuotedScalar (single : Bool) : Lexing Unit := do
  noteKey
  allowKey false
  let text ← quotedScalar single
  emit (.scalar text .quoted)

/-- A plain scalar. -/
def lexPlainScalar : Lexing Unit := do
  noteKey
  allowKey false
  let text ← plainScalar
  emit (.scalar text .plain)

/-! ## Directives -/

/-- A number of a version: at most nine digits. -/
def versionNumber : Lexing Nat := do
  let digits ← takeWhile Char.isDigit
  if digits.isEmpty || 9 < digits.length then throw .badDirective
  pure (digits.foldl (fun n c => 10 * n + (c.toNat - '0'.toNat)) 0)

/-- Skips blanks, of which there has to be one. -/
def someSpaces : Lexing Unit := do
  if (← takeWhile isSpace).isEmpty then throw .badDirective

/-- A directive up to the end of its line. -/
def lexDirective : Lexing Unit := do
  unindentTo (-1)
  dropKey
  allowKey false
  skip 1
  let name ← takeWhile isNameChar
  if !atBlank (← ahead) then throw .badDirective
  match String.ofList name with
  | "YAML" =>
    let _ ← takeWhile isSpace
    let major ← versionNumber
    if (← ahead).head? ≠ some '.' then throw .badDirective
    skip 1
    let minor ← versionNumber
    emit (.version major minor)
  | "TAG" =>
    let _ ← takeWhile isSpace
    if (← ahead).head? ≠ some '!' then throw .badDirective
    skip 1
    let word ← takeWhile isNameChar
    let closed := (← ahead).head? = some '!'
    if closed then skip 1
    if !closed && !word.isEmpty then throw .badDirective
    someSpaces
    let start ← tagName (← takeWhile (isTagChar true))
    if !atBlank (← ahead) then throw .badDirective
    emit (.tagHandle ("!" ++ String.ofList word ++ (if closed then "!" else "")) start)
  | _ => throw .badDirective
  let _ ← takeWhile isSpace
  if (← ahead).head? = some '#' then
    let _ ← takeWhile fun c => !isBreak c
  if !atLineEnd (← ahead) then throw .badDirective

/-! ## The whole text -/

/--
Skips blanks, comments and line breaks in front of a token, and byte order marks that start a line,
which take a column.
-/
def skipToToken : List Char → Lexing Unit
  | [] => pure ()
  | _ :: text => do
    let l ← get
    if l.cursor.column = 0 && l.cursor.rest.head? = some '\ufeff' then skip 1
    let tabs := l.inFlow || !l.keyAllowed
    let _ ← takeWhile fun c => c = ' ' || (tabs && c = '\t')
    if (← ahead).head? = some '#' then
      let _ ← takeWhile fun c => !isBreak c
    if (← ahead).head?.any isBreak then
      modify fun l => { l with cursor := l.cursor.skipBreak }
      if !l.inFlow then allowKey true
      skipToToken text

/-- Whether a character stands for something of its own at the start of a token. -/
def isIndicator (c : Char) : Bool :=
  "-?:,[]\x7b\x7d#&*!|>\x27\"%@`".contains c

/-- The token that starts with a character. -/
def lexToken (c : Char) (rest : List Char) : Lexing Unit := do
  let l ← get
  let blankNext := atBlank rest
  if l.cursor.column = 0 && c = '%' then lexDirective
  else if l.cursor.atMarker '-' then lexMarker .documentStart
  else if l.cursor.atMarker '.' then lexMarker .documentEnd
  else if c = '[' then lexOpen .listOpen
  else if c = '\x7b' then lexOpen .braceOpen
  else if c = ']' then lexClose .listClose
  else if c = '\x7d' then lexClose .braceClose
  else if c = ',' then lexComma
  else if c = '-' && blankNext then lexEntry
  else if c = '?' && (l.inFlow || blankNext) then lexKey
  else if c = ':' && (l.inFlow || blankNext) then lexValue
  else if c = '*' then lexName .aliasOf
  else if c = '&' then lexName .anchor
  else if c = '!' then lexTag
  else if c = '|' && !l.inFlow then lexBlockScalar true
  else if c = '>' && !l.inFlow then lexBlockScalar false
  else if c = '\x27' then lexQuotedScalar true
  else if c = '"' then lexQuotedScalar false
  else if !(isSpace c || isIndicator c) || (c = '-' && !rest.head?.any isSpace)
      || (!l.inFlow && (c = '?' || c = ':') && !blankNext) then lexPlainScalar
  else throw .unexpectedCharacter

/-- Reads tokens to the end of the text; each takes at least one character. -/
def lexAll : Nat → Lexing Unit
  | 0 => pure ()
  | fuel + 1 => do
    skipToToken (← ahead)
    dropStaleKey
    unindentTo (← get).cursor.column
    match ← ahead with
    | [] => do
      unindentTo (-1)
      dropKey
    | c :: rest => do
      lexToken c rest
      lexAll fuel

/-- The tokens of a text. -/
def Token.ofText (s : String) : Except Problem (List Token) := do
  let cs := s.toList
  if !cs.all isAllowed then throw .forbiddenCharacter
  let cs := unifyBreaks cs
  let (_, l) ← (lexAll (cs.length + 1)).run { cursor := { rest := cs } }
  pure l.tokens.toList

end IssueNotice.Yaml
