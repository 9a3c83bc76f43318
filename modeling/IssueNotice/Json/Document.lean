import IssueNotice.Json.Quoted

/-!
# JSON documents

The part of JSON that reports need, and its layout: every item of a list and every field of an
object stands on a line of its own, indented by two blanks for each level, and empty lists and
objects stand on one line.
-/

namespace IssueNotice.Json

/-- A JSON value made of texts, counts, lists and objects; fields keep their order. -/
inductive Document where
  | text (s : String)
  | count (n : Nat)
  | list (items : List Document)
  | object (fields : List (String × Document))

namespace Document

/-- A line break, and the blanks in front of the next line. -/
def lineBreak (level : Nat) : List Char :=
  '\n' :: List.replicate (2 * level) ' '

mutual

/-- A document laid out at a level of indentation. -/
def layout (level : Nat) : Document → List Char
  | text s => quote s
  | count n => (toString n).toList
  | list [] => ['[', ']']
  | list (d :: ds) =>
    '[' :: lineBreak (level + 1) ++ layout (level + 1) d ++ layoutItems (level + 1) ds
      ++ lineBreak level ++ [']']
  | object [] => ['\x7b', '\x7d']
  | object ((key, d) :: fields) =>
    '\x7b' :: lineBreak (level + 1) ++ quote key ++ [':', ' '] ++ layout (level + 1) d
      ++ layoutFields (level + 1) fields ++ lineBreak level ++ ['\x7d']

/-- The items of a list after the first. -/
def layoutItems (level : Nat) : List Document → List Char
  | [] => []
  | d :: ds => ',' :: lineBreak level ++ layout level d ++ layoutItems level ds

/-- The fields of an object after the first. -/
def layoutFields (level : Nat) : List (String × Document) → List Char
  | [] => []
  | (key, d) :: fields =>
    ',' :: lineBreak level ++ quote key ++ [':', ' '] ++ layout level d ++ layoutFields level fields

end

end Document

end IssueNotice.Json
