import IssueNotice.Failure
import IssueNotice.Notice

/-!
# Drafting notices

Notices are drafted from an analysis and its project: the context is the same in all of them, and
the rest comes from the issue or from the statistics at hand.
-/

namespace IssueNotice

/-- What all notices of an analysis share. -/
structure Draft where
  analysis : Analysis
  /-- The root of the component tree. -/
  project : Component
  deriving Repr, DecidableEq

namespace Draft

/-- The project, branch and pull request that the notices name. -/
def context (d : Draft) : ProjectContext where
  key := d.project.key
  name := d.project.name
  branch := d.analysis.noticeBranch
  pullRequest := d.analysis.noticePullRequest

/-- The notice of a changed issue; its rule has to be known. -/
def change (d : Draft) (rule : Option Rule) (i : Issue) (assignee : Option User)
    (file : Option Component) : Except Failure ChangeNotice :=
  match rule with
  | none => .error (.unknownRule i.ruleKey)
  | some rule => .ok {
      project := d.context
      issueKey := i.key
      ruleKey := i.ruleKey
      ruleName := rule.name
      message := i.message
      severity := i.severity
      status := i.status
      resolution := i.resolution
      assignee := assignee
      file := file.map fun c => ⟨c.key, c.name⟩ }

/-- The notice of all new issues; assignees without a user record are left unnamed. -/
def newIssues (d : Draft) (s : Statistics) (users : Keyed User) : NewIssuesNotice where
  project := d.context
  version := d.project.version
  date := d.analysis.date
  statistics := s
  debt := s.effort.onLeak
  assigneeNames :=
    Keyed.ofEntries ((s.distribution .assignee).toList.filterMap fun (uuid, _) =>
      users[uuid]?.map fun u => (uuid, u.displayName))

/-- The notice of the new issues of one assignee. -/
def myNewIssues (d : Draft) (uuid : String) (s : Statistics) (assignee : Option User) :
    MyNewIssuesNotice where
  project := d.context
  version := d.project.version
  date := d.analysis.date
  assigneeUuid := uuid
  assignee := assignee
  statistics := s
  debt := s.effort.onLeak

end Draft

end IssueNotice
