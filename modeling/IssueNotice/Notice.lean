import IssueNotice.Analysis
import IssueNotice.Component
import IssueNotice.Statistics
import IssueNotice.User

/-!
# Notices

The three kinds of notice sent after an analysis: one for each changed issue, one about all new
issues of the project, and one for each assignee about their own.
-/

namespace IssueNotice

/-- Kind of notice. -/
inductive NoticeKind where
  | newIssues
  | myNewIssues
  | issueChanges
  deriving Repr, DecidableEq

namespace NoticeKind

/-- Every kind. -/
def all : List NoticeKind := [newIssues, myNewIssues, issueChanges]

/-- The word for a kind. -/
def word : NoticeKind → String
  | newIssues => "new-issues"
  | myNewIssues => "my-new-issues"
  | issueChanges => "issue-changes"

/-- The kind that a text names, in any case. -/
def ofText (s : String) : Except UnknownWord NoticeKind :=
  match Text.lowerWord s with
  | "new-issues" => .ok newIssues
  | "my-new-issues" => .ok myNewIssues
  | "issue-changes" => .ok issueChanges
  | _ => .error ⟨.noticeKind, s⟩

end NoticeKind

/-- The project, branch and pull request that a notice is about. -/
structure ProjectContext where
  key : String
  name : String
  branch : Option String := none
  pullRequest : Option String := none
  deriving Repr, DecidableEq

/-- The file that an issue was raised on. -/
structure FileRef where
  key : String
  name : String
  deriving Repr, DecidableEq

/-- The notice of one changed issue. -/
structure ChangeNotice where
  project : ProjectContext
  issueKey : String
  ruleKey : String
  ruleName : String
  message : Option String := none
  severity : Option String := none
  status : Option String := none
  resolution : Option String := none
  assignee : Option User := none
  file : Option FileRef := none
  deriving Repr, DecidableEq

/-- The notice of all new issues of a project. -/
structure NewIssuesNotice where
  project : ProjectContext
  version : Option String
  date : Instant
  statistics : Statistics
  /-- Effort of the issues on the leak period, in minutes. -/
  debt : Nat
  /-- Names of the known assignees, by uuid. -/
  assigneeNames : Keyed String
  deriving DecidableEq

/-- The notice of the new issues of one assignee. -/
structure MyNewIssuesNotice where
  project : ProjectContext
  version : Option String
  date : Instant
  assigneeUuid : String
  assignee : Option User
  statistics : Statistics
  /-- Effort of the issues on the leak period, in minutes. -/
  debt : Nat
  deriving DecidableEq

/-- A notice of any kind. -/
inductive Notice where
  | change (n : ChangeNotice)
  | newIssues (n : NewIssuesNotice)
  | myNewIssues (n : MyNewIssuesNotice)
  deriving DecidableEq

namespace Notice

/-- The kind of a notice. -/
def kind : Notice → NoticeKind
  | change _ => .issueChanges
  | newIssues _ => .newIssues
  | myNewIssues _ => .myNewIssues

/-- What a notice is about. -/
def project : Notice → ProjectContext
  | change n => n.project
  | newIssues n => n.project
  | myNewIssues n => n.project

/-- The subject line under which a notice is delivered. -/
def subject : Notice → String
  | change n => s!"{n.project.name}: issue {n.issueKey} changed ({n.ruleName})"
  | newIssues n =>
    s!"{n.project.name}: {n.statistics.countOnLeak} new issue(s) (new debt: {n.debt}min)"
  | myNewIssues n =>
    s!"{n.project.name}: {n.statistics.countOnLeak} new issue(s) assigned to "
      ++ (n.assignee.map User.displayName).getD n.assigneeUuid

end Notice

end IssueNotice
