/-!
# Words in any case

The words of a vocabulary are ASCII, and a text names one of them in any mixture of upper and
lower case. Case mapping is the full one of Unicode, so a few characters outside ASCII count as
ASCII letters: the long s as `S`, the Kelvin sign as `k`, a ligature as its letters. Every other
character outside ASCII is kept, and since no word contains it, the text then names no word.
-/

namespace IssueNotice.Text

/-- The upper-case form of a character, as far as it leads into ASCII. -/
def upperChar : Char → List Char
  | 'ı' => ['I']
  | 'ſ' => ['S']
  | 'ß' => ['S', 'S']
  | 'ﬀ' => ['F', 'F']
  | 'ﬁ' => ['F', 'I']
  | 'ﬂ' => ['F', 'L']
  | 'ﬃ' => ['F', 'F', 'I']
  | 'ﬄ' => ['F', 'F', 'L']
  | 'ﬅ' => ['S', 'T']
  | 'ﬆ' => ['S', 'T']
  | c => [c.toUpper]

/-- The lower-case form of a character, as far as it leads into ASCII. -/
def lowerChar : Char → Char
  | '\u212a' => 'k'
  | c => c.toLower

/-- A text in upper case, for comparison with upper-case ASCII words. -/
def upperWord (s : String) : String :=
  String.ofList (s.toList.flatMap upperChar)

/-- A text in lower case, for comparison with lower-case ASCII words. -/
def lowerWord (s : String) : String :=
  String.ofList (s.toList.map lowerChar)

end IssueNotice.Text
