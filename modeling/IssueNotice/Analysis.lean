import IssueNotice.Instant
import IssueNotice.Text.Casing
import IssueNotice.Vocabulary

/-!
# Analyses

The analysis whose issues are notified: its project, its date and the branch it ran on.
-/

namespace IssueNotice

/-- Kind of branch an analysis ran on. -/
inductive BranchKind where
  | long
  | short
  | pullRequest
  deriving Repr, DecidableEq

namespace BranchKind

/-- The word for a branch kind. -/
def word : BranchKind → String
  | long => "long"
  | short => "short"
  | pullRequest => "pull_request"

/-- The branch kind that a text names, in any case and under any of its names. -/
def ofText (s : String) : Except UnknownWord BranchKind :=
  match Text.lowerWord s with
  | "long" | "branch" => .ok long
  | "short" => .ok short
  | "pull_request" | "pull-request" | "pr" => .ok pullRequest
  | _ => .error ⟨.branchKind, s⟩

end BranchKind

/-- The branch an analysis ran on. -/
structure Branch where
  name : String
  kind : BranchKind
  isMain : Bool
  deriving Repr, DecidableEq

namespace Branch

/-- The main branch of a project, which is long-lived. -/
def main (name : String) : Branch := ⟨name, .long, true⟩

/-- Pull requests and short-lived branches never send notices. -/
def isSilent (b : Branch) : Bool :=
  b.kind != .long

end Branch

/-- An analysis whose issues are notified. -/
structure Analysis where
  projectUuid : String
  date : Instant
  branch : Branch
  pullRequest : Option String := none
  deriving Repr, DecidableEq

namespace Analysis

/-- The branch that a notice names: none for the main branch and for pull requests. -/
def noticeBranch (a : Analysis) : Option String :=
  if a.branch.isMain || a.branch.kind == .pullRequest then none else some a.branch.name

/-- The pull request that a notice names. -/
def noticePullRequest (a : Analysis) : Option String :=
  if a.branch.kind == .pullRequest then a.pullRequest else none

end Analysis

end IssueNotice
