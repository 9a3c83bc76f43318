import IssueNotice.Notice

/-!
# Run counters

For each kind of notice a run counts the notices sent, where a batch of changes counts once, and the
recipients reached.
-/

namespace IssueNotice

/-- The counts for one kind of notice. -/
structure SentCount where
  notices : Nat := 0
  deliveries : Nat := 0
  deriving Repr, DecidableEq

/-- The counts of a run. -/
structure Counters where
  newIssues : SentCount := {}
  myNewIssues : SentCount := {}
  issueChanges : SentCount := {}
  deriving Repr, DecidableEq

namespace Counters

/-- The counts for a kind. -/
def get (c : Counters) : NoticeKind → SentCount
  | .newIssues => c.newIssues
  | .myNewIssues => c.myNewIssues
  | .issueChanges => c.issueChanges

/-- Replaces the counts for a kind. -/
def modify (c : Counters) (k : NoticeKind) (f : SentCount → SentCount) : Counters :=
  match k with
  | .newIssues => { c with newIssues := f c.newIssues }
  | .myNewIssues => { c with myNewIssues := f c.myNewIssues }
  | .issueChanges => { c with issueChanges := f c.issueChanges }

/-- Counts more notices of a kind. -/
def addNotices (c : Counters) (k : NoticeKind) (n : Nat) : Counters :=
  c.modify k fun s => { s with notices := s.notices + n }

/-- Counts more recipients of a kind. -/
def addDeliveries (c : Counters) (k : NoticeKind) (n : Nat) : Counters :=
  c.modify k fun s => { s with deliveries := s.deliveries + n }

/-- Whether nothing was counted. -/
def isEmpty (c : Counters) : Bool := c == {}

/-- The six counts under their names, in the order in which they are reported. -/
def entries (c : Counters) : List (String × Nat) :=
  [ ("newIssuesNotifs", c.newIssues.notices),
    ("newIssuesDeliveries", c.newIssues.deliveries),
    ("myNewIssuesNotifs", c.myNewIssues.notices),
    ("myNewIssuesDeliveries", c.myNewIssues.deliveries),
    ("changesNotifs", c.issueChanges.notices),
    ("changesDeliveries", c.issueChanges.deliveries) ]

theorem get_modify (c : Counters) (k l : NoticeKind) (f : SentCount → SentCount) :
    (c.modify k f).get l = if l = k then f (c.get k) else c.get l := by
  cases k <;> cases l <;> rfl

end Counters

end IssueNotice
