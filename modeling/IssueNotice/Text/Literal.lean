import IssueNotice.Text.Unprintable

/-!
# Text in messages

How a text is quoted where a message shows a value: quote, backslash and the usual controls are
written as a backslash and a character, unprintable characters by their code point in hexadecimal.
-/

namespace IssueNotice.Text

/-- How a character is shown between quotes. -/
def literalChar (c : Char) : String :=
  if c = '\x00' then "\\0"
  else if c = '\t' then "\\t"
  else if c = '\r' then "\\r"
  else if c = '\n' then "\\n"
  else if c = '"' then "\\\""
  else if c = '\\' then "\\\\"
  else if isUnprintable c then
    "\\u\x7b" ++ String.ofList (Nat.toDigits 16 c.toNat) ++ "\x7d"
  else c.toString

/-- A text between quotes. -/
def literal (s : String) : String :=
  "\"" ++ String.join (s.toList.map literalChar) ++ "\""

end IssueNotice.Text
