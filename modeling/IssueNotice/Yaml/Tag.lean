import IssueNotice.Text.Bytes

/-!
# YAML tags

A tag says what kind of value a node has. Its full name is a sequence of bytes: any byte can be
written in a tag by a percent sign and two hexadecimal digits, as long as the escaped bytes have
the lengths of UTF-8 characters. A name ends before a byte of zero.
-/

namespace IssueNotice.Yaml

/-- The full name of a tag. -/
structure Tag where
  bytes : List UInt8
  deriving Repr, DecidableEq

namespace Tag

/-- The tag with a name. -/
def ofString (s : String) : Tag := ⟨s.toUTF8.toList⟩

/-- What the full names of core tags start with. -/
def corePrefix : Tag := ofString "tag:yaml.org,2002:"

/-- A name behind the start that its handle stands for. -/
def behind (start suffix : Tag) : Tag := ⟨start.bytes ++ suffix.bytes⟩

/-- The tag of null. -/
def null : Tag := ofString "tag:yaml.org,2002:null"

/-- The tag of truth values. -/
def truth : Tag := ofString "tag:yaml.org,2002:bool"

/-- The tag of integers. -/
def integer : Tag := ofString "tag:yaml.org,2002:int"

/-- The tag of real numbers. -/
def real : Tag := ofString "tag:yaml.org,2002:float"

/-- The tag that names no kind: a single exclamation mark. -/
def nonSpecific : Tag := ofString "!"

/-- Whether the name starts with an exclamation mark. -/
def isMarked (t : Tag) : Bool := t.bytes.head? = some 0x21

/-- Whether the tag is one of the application: marked, and a text behind the mark. -/
def isLocal (t : Tag) : Bool :=
  t.isMarked && (String.fromUTF8? ⟨(t.bytes.drop 1).toArray⟩).isSome

/-! ## Escapes -/

/-- Number of bytes in a character that starts with a byte. -/
def byteCount? (n : Nat) : Option Nat :=
  if n < 0x80 then some 1
  else if n < 0xc0 then none
  else if n < 0xe0 then some 2
  else if n < 0xf0 then some 3
  else if n < 0xf8 then some 4
  else none

/-- Number of bytes that are still missing behind a byte, given how many were before it. -/
def missingBehind? (missing n : Nat) : Option Nat :=
  match missing with
  | 0 => (byteCount? n).map (· - 1)
  | missing + 1 => if 0x80 ≤ n && n < 0xc0 then some missing else none

/-- The bytes that characters with escapes stand for, while some of a character are missing. -/
def unescape? (missing : Nat) : List Char → Option (List UInt8)
  | [] => if missing = 0 then some [] else none
  | '%' :: a :: b :: rest => do
    let n := 16 * (← Text.hexValue? a) + (← Text.hexValue? b)
    let bytes ← unescape? (← missingBehind? missing n) rest
    pure (UInt8.ofNat n :: bytes)
  | c :: rest => do
    if missing != 0 || c = '%' then failure
    let bytes ← unescape? 0 rest
    pure (UInt8.ofNat c.toNat :: bytes)

/-- The name that is written, with escapes, in characters of one byte. -/
def ofWritten? (cs : List Char) : Option Tag :=
  (unescape? 0 cs).map fun bytes => ⟨bytes.takeWhile (· != 0)⟩

end Tag

end IssueNotice.Yaml
