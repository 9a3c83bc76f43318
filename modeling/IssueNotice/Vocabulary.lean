/-!
# Vocabularies

Six closed vocabularies are read from text: rule types, branch kinds, component kinds, notice kinds,
delivery channels and report formats. A text outside its vocabulary is an `UnknownWord`, which
keeps the text as it was given.
-/

namespace IssueNotice

/-- The closed sets of words that a text can be read against. -/
inductive Vocabulary where
  | ruleType
  | branchKind
  | componentKind
  | noticeKind
  | channel
  | reportFormat
  deriving Repr, DecidableEq

/-- A text that names no word of a vocabulary. -/
structure UnknownWord where
  vocabulary : Vocabulary
  text : String
  deriving Repr, DecidableEq

/-- What is said to the user: the text as given and, for most vocabularies, the words expected. -/
def UnknownWord.message (w : UnknownWord) : String :=
  match w.vocabulary with
  | .ruleType => s!"Unknown rule type: {w.text}"
  | .branchKind =>
    s!"Invalid branch type: {w.text}. Please specify 'long', 'short' or 'pull_request'"
  | .componentKind => s!"Unknown component type: {w.text}"
  | .noticeKind =>
    s!"Unknown notification kind: {w.text}. "
      ++ "Expected 'new-issues', 'my-new-issues' or 'issue-changes'"
  | .channel => s!"Invalid delivery channel: {w.text}. Valid values are: email, legacy"
  | .reportFormat => s!"Invalid format: {w.text}. Please specify 'json' or 'markdown'"

end IssueNotice
