import IssueNotice.Total

/-!
# Bytes of a text

How many bytes a text takes in UTF-8, and what hexadecimal digits stand for.
-/

namespace IssueNotice.Text

/-- Number of bytes of a text. -/
def byteLength (cs : List Char) : Nat := total (cs.map fun c => c.utf8Size)

/-- The value of a hexadecimal digit. -/
def hexValue? (c : Char) : Option Nat :=
  if '0' ≤ c ∧ c ≤ '9' then some (c.toNat - '0'.toNat)
  else if 'a' ≤ c ∧ c ≤ 'f' then some (c.toNat - 'a'.toNat + 10)
  else if 'A' ≤ c ∧ c ≤ 'F' then some (c.toNat - 'A'.toNat + 10)
  else none

end IssueNotice.Text
