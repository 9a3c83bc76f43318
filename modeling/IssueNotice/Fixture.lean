import IssueNotice.Analysis
import IssueNotice.Component.Tree
import IssueNotice.Failure
import IssueNotice.Fixture.Reading
import IssueNotice.Run
import IssueNotice.Subscription

/-!
# Fixtures

A recorded analysis: everything that a run needs. `Fixture.ofEntry` reads the words of a written
fixture against their vocabularies; the first unknown word ends it, in the order components (each
before what is below it), branch, subscriptions (channel before kinds), issues.
-/

namespace IssueNotice

/-- A recorded analysis. -/
structure Fixture where
  request : Run.Request
  rules : List Rule
  users : List User
  subscriptions : List Subscription
  issues : List Issue

namespace Fixture

/-- The component that is written, without what is below it. -/
def ComponentEntry.component : ComponentEntry → Except UnknownWord Component
  | .mk key uuid name kind version _ => do
    let kind ← ComponentKind.ofText kind
    pure { key, uuid, name, kind, version }

/--
Adds the entries that are pending, the first one first, each under its parent's place. What is
below an entry is pending in front of all others as soon as the entry was added.
-/
def addPending (t : ComponentTree) (pending : List (Nat × ComponentEntry))
    (h : ∀ p ∈ pending, p.1 < t.size) : Except UnknownWord ComponentTree :=
  match pending with
  | [] => pure t
  | (parent, e) :: rest => do
    let c ← e.component
    addPending (t.addChild ⟨parent, h (parent, e) List.mem_cons_self⟩ c)
      (e.children.map (t.size, ·) ++ rest)
      (by
        intro p hp
        rw [ComponentTree.size_addChild]
        rcases List.mem_append.mp hp with hp | hp
        · obtain ⟨_, -, rfl⟩ := List.mem_map.mp hp
          exact Nat.lt_succ_self _
        · exact Nat.lt_succ_of_lt (h p (List.mem_cons_of_mem _ hp)))
termination_by (pending.flatMap fun p => p.2.preOrder).length
decreasing_by
  simp only [List.flatMap_append, List.flatMap_map, List.flatMap_cons, List.length_append]
  rw [ComponentEntry.preOrder_eq e, List.length_cons]
  omega

/-- The tree of a nested description. -/
def ComponentEntry.tree (e : ComponentEntry) : Except UnknownWord ComponentTree := do
  let t := ComponentTree.ofRoot (← e.component)
  addPending t (e.children.map (0, ·)) (by
    intro p hp
    obtain ⟨_, -, rfl⟩ := List.mem_map.mp hp
    exact t.size_pos)

/-- The analysis that is written. -/
def AnalysisEntry.analysis (e : AnalysisEntry) : Except UnknownWord Analysis := do
  let kind ← BranchKind.ofText e.branch.kind
  pure {
    projectUuid := e.projectUuid
    date := e.date
    branch := ⟨e.branch.name, kind, e.branch.isMain⟩
    pullRequest := e.pullRequest }

/-- The subscription that is written. -/
def SubscriptionEntry.subscription (e : SubscriptionEntry) : Except UnknownWord Subscription := do
  let channel ← Channel.ofText e.channel
  let kinds ← e.kinds.mapM NoticeKind.ofText
  pure { login := e.login, channel, kinds }

/-- The issue that is written. -/
def IssueEntry.issue (e : IssueEntry) : Except UnknownWord Issue := do
  let type ← RuleType.ofText e.type
  pure {
    key := e.key
    ruleKey := e.ruleKey
    type
    component := e.component
    created := e.created
    message := e.message
    severity := e.severity
    status := e.status
    resolution := e.resolution
    assignee := e.assignee
    effort := e.effort
    tags := e.tags
    isNew := e.isNew
    change := .ofFlags e.isChanged e.sendNotifications }

/-- The recorded analysis that is written. -/
def ofEntry (e : Entry) : Except UnknownWord Fixture := do
  let tree ← e.project.tree
  let analysis ← e.analysis.analysis
  let subscriptions ← e.subscriptions.mapM SubscriptionEntry.subscription
  let issues ← e.issues.mapM IssueEntry.issue
  pure { request := ⟨analysis, tree⟩, rules := e.rules, users := e.users, subscriptions, issues }

/-- The recorded analysis that is written in the file at a path, which is named in failures. -/
def convert (path : String) (e : Entry) : Except Failure Fixture :=
  (ofEntry e).mapError fun word => .malformedFixture path word.message

/-- The recorded analysis in a file's text; the path is named in failures. -/
def ofText (path text : String) : Except Failure Fixture :=
  match Entry.ofText text with
  | .error problem => .error (.malformedFixture path problem.message)
  | .ok entry => convert path entry

end Fixture

end IssueNotice
