import IssueNotice.Yaml.Tag

/-!
# YAML tokens

The tokens of a YAML text. Indentation shows as tokens that start and end block collections, and a
key that is only told by the colon behind it has a key token in front of it.
-/

namespace IssueNotice.Yaml

/-- How a scalar is written. -/
inductive ScalarStyle where
  | plain
  /-- In quotes, single or double. -/
  | quoted
  /-- As a block that keeps its lines. -/
  | literal
  /-- As a block that folds its lines. -/
  | folded
  deriving Repr, DecidableEq

/-- A token of a YAML text. -/
inductive Token where
  /-- A directive that states the version. -/
  | version (major minor : Nat)
  /-- A directive that names a tag handle. -/
  | tagHandle (handle : String) (start : Tag)
  | documentStart
  | documentEnd
  | blockSequence
  | blockMapping
  | blockEnd
  | listOpen
  | listClose
  | braceOpen
  | braceClose
  /-- The dash of a block sequence. -/
  | entry
  | comma
  | key
  | value
  | aliasOf (name : String)
  | anchor (name : String)
  | tag (handle : String) (suffix : Tag)
  | scalar (text : String) (style : ScalarStyle)
  deriving Repr, DecidableEq

end IssueNotice.Yaml
