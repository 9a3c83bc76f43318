import IssueNotice.Fixture.Entry
import IssueNotice.Json.Record

/-!
# Reading fixtures

The shapes of the records that make up a fixture, with their fields in the order in which they are
written when a record is a list. Each record gathers its fields in slots that are empty at first.
-/

namespace IssueNotice.Fixture

open Json

/-! ## Rules, users and subscriptions -/

/-- The fields of a rule read so far. -/
structure RuleSlots where
  key : Option String := none
  name : Option String := none

/-- A rule. -/
def ruleShape : Shape RuleSlots Rule where
  name := "RawRule"
  fields := [
    .of "key" false (·.key) (fun v s => { s with key := some v }) text,
    .of "name" false (·.name) (fun v s => { s with name := some v }) text]
  empty := {}
  finish s := do
    let key ← present "key" s.key
    let name ← present "name" s.name
    pure { key, name }

/-- The fields of a user read so far. -/
structure UserSlots where
  uuid : Option String := none
  login : Option String := none
  name : Option (Option String) := none
  email : Option (Option String) := none

/-- A user. -/
def userShape : Shape UserSlots User where
  name := "RawUser"
  fields := [
    .of "uuid" false (·.uuid) (fun v s => { s with uuid := some v }) text,
    .of "login" false (·.login) (fun v s => { s with login := some v }) text,
    .of "name" false (·.name) (fun v s => { s with name := some v }) (optional text),
    .of "email" false (·.email) (fun v s => { s with email := some v }) (optional text)]
  empty := {}
  finish s := do
    let uuid ← present "uuid" s.uuid
    let login ← present "login" s.login
    pure { uuid, login, name := s.name.join, email := s.email.join }

/-- The fields of a subscription read so far. -/
structure SubscriptionSlots where
  login : Option String := none
  channel : Option String := none
  kinds : Option (List String) := none

/-- A subscription, by default to the email channel. -/
def subscriptionShape (budget : Nat) : Shape SubscriptionSlots SubscriptionEntry where
  name := "RawSubscriber"
  fields := [
    .of "login" false (·.login) (fun v s => { s with login := some v }) text,
    .of "channel" true (·.channel) (fun v s => { s with channel := some v }) text,
    .of "kinds" false (·.kinds) (fun v s => { s with kinds := some v }) (list (budget - 1) text)]
  empty := {}
  finish s := do
    let login ← present "login" s.login
    let kinds ← present "kinds" s.kinds
    pure { login, channel := s.channel.getD "email", kinds }

/-! ## The analysis -/

/-- The fields of a branch read so far. -/
structure BranchSlots where
  name : Option String := none
  kind : Option String := none
  isMain : Option Bool := none

/-- A branch, by default long-lived and not the main branch. -/
def branchShape : Shape BranchSlots BranchEntry where
  name := "RawBranch"
  fields := [
    .of "name" false (·.name) (fun v s => { s with name := some v }) text,
    .of "type" true (·.kind) (fun v s => { s with kind := some v }) text,
    .of "main" true (·.isMain) (fun v s => { s with isMain := some v }) flag]
  empty := {}
  finish s := do
    let name ← present "name" s.name
    pure { name, kind := s.kind.getD "long", isMain := s.isMain.getD false }

/-- The fields of an analysis read so far. -/
structure AnalysisSlots where
  projectUuid : Option String := none
  date : Option Instant := none
  branch : Option BranchEntry := none
  pullRequest : Option (Option String) := none

/-- An analysis. -/
def analysisShape (budget : Nat) : Shape AnalysisSlots AnalysisEntry where
  name := "RawAnalysis"
  fields := [
    .of "projectUuid" false (·.projectUuid) (fun v s => { s with projectUuid := some v }) text,
    .of "analysisDate" false (·.date) (fun v s => { s with date := some v }) instant,
    .of "branch" false (·.branch) (fun v s => { s with branch := some v })
      (branchShape.read (budget - 1)),
    .of "pullRequest" false (·.pullRequest) (fun v s => { s with pullRequest := some v })
      (optional text)]
  empty := {}
  finish s := do
    let projectUuid ← present "projectUuid" s.projectUuid
    let date ← present "analysisDate" s.date
    let branch ← present "branch" s.branch
    pure { projectUuid, date, branch, pullRequest := s.pullRequest.join }

/-! ## Components -/

/-- The fields of a component read so far. -/
structure ComponentSlots where
  key : Option String := none
  uuid : Option String := none
  name : Option String := none
  kind : Option String := none
  version : Option (Option String) := none
  children : Option (List ComponentEntry) := none

/-- A component, given how a child is read. -/
def componentShape (budget : Nat) (child : Reading ComponentEntry) :
    Shape ComponentSlots ComponentEntry where
  name := "RawComponent"
  fields := [
    .of "key" false (·.key) (fun v s => { s with key := some v }) text,
    .of "uuid" false (·.uuid) (fun v s => { s with uuid := some v }) text,
    .of "name" false (·.name) (fun v s => { s with name := some v }) text,
    .of "type" false (·.kind) (fun v s => { s with kind := some v }) text,
    .of "version" false (·.version) (fun v s => { s with version := some v }) (optional text),
    .of "children" true (·.children) (fun v s => { s with children := some v })
      (list (budget - 1) child)]
  empty := {}
  finish s := do
    let key ← present "key" s.key
    let uuid ← present "uuid" s.uuid
    let name ← present "name" s.name
    let kind ← present "type" s.kind
    pure (.mk key uuid name kind s.version.join (s.children.getD []))

/-- A component and everything below it; each level takes two brackets. -/
def component : Nat → Reading ComponentEntry
  | 0 => (componentShape 0 (throw .tooDeep)).read 0
  | 1 => (componentShape 1 (throw .tooDeep)).read 1
  | budget + 2 => (componentShape (budget + 2) (component budget)).read (budget + 2)

/-! ## Issues -/

/-- The fields of an issue read so far. -/
structure IssueSlots where
  key : Option String := none
  ruleKey : Option String := none
  type : Option String := none
  component : Option String := none
  created : Option Instant := none
  message : Option (Option String) := none
  severity : Option (Option String) := none
  status : Option (Option String) := none
  resolution : Option (Option String) := none
  assignee : Option (Option String) := none
  effort : Option (Option Nat) := none
  tags : Option (List String) := none
  isNew : Option Bool := none
  isChanged : Option Bool := none
  sendNotifications : Option Bool := none

/-- An issue. -/
def issueShape (budget : Nat) : Shape IssueSlots IssueEntry where
  name := "RawIssue"
  fields := [
    .of "key" false (·.key) (fun v s => { s with key := some v }) text,
    .of "ruleKey" false (·.ruleKey) (fun v s => { s with ruleKey := some v }) text,
    .of "type" false (·.type) (fun v s => { s with type := some v }) text,
    .of "componentKey" false (·.component) (fun v s => { s with component := some v }) text,
    .of "creationDate" false (·.created) (fun v s => { s with created := some v }) instant,
    .of "message" false (·.message) (fun v s => { s with message := some v }) (optional text),
    .of "severity" false (·.severity) (fun v s => { s with severity := some v }) (optional text),
    .of "status" false (·.status) (fun v s => { s with status := some v }) (optional text),
    .of "resolution" false (·.resolution) (fun v s => { s with resolution := some v })
      (optional text),
    .of "assignee" false (·.assignee) (fun v s => { s with assignee := some v }) (optional text),
    .of "effortMinutes" false (·.effort) (fun v s => { s with effort := some v })
      (optional count),
    .of "tags" true (·.tags) (fun v s => { s with tags := some v }) (list (budget - 1) text),
    .of "new" true (·.isNew) (fun v s => { s with isNew := some v }) flag,
    .of "changed" true (·.isChanged) (fun v s => { s with isChanged := some v }) flag,
    .of "sendNotifications" true (·.sendNotifications)
      (fun v s => { s with sendNotifications := some v }) flag]
  empty := {}
  finish s := do
    let key ← present "key" s.key
    let ruleKey ← present "ruleKey" s.ruleKey
    let type ← present "type" s.type
    let component ← present "componentKey" s.component
    let created ← present "creationDate" s.created
    pure {
      key, ruleKey, type, component, created
      message := s.message.join
      severity := s.severity.join
      status := s.status.join
      resolution := s.resolution.join
      assignee := s.assignee.join
      effort := s.effort.join
      tags := s.tags.getD []
      isNew := s.isNew.getD false
      isChanged := s.isChanged.getD false
      sendNotifications := s.sendNotifications.getD false }

/-! ## Fixtures -/

/-- The fields of a fixture read so far. -/
structure Slots where
  analysis : Option AnalysisEntry := none
  project : Option ComponentEntry := none
  rules : Option (List Rule) := none
  users : Option (List User) := none
  subscriptions : Option (List SubscriptionEntry) := none
  issues : Option (List IssueEntry) := none

/-- A fixture. -/
def shape (budget : Nat) : Shape Slots Entry where
  name := "RawFixture"
  fields := [
    .of "analysis" false (·.analysis) (fun v s => { s with analysis := some v })
      ((analysisShape (budget - 1)).read (budget - 1)),
    .of "project" false (·.project) (fun v s => { s with project := some v })
      (component (budget - 1)),
    .of "rules" true (·.rules) (fun v s => { s with rules := some v })
      (list (budget - 1) (ruleShape.read (budget - 2))),
    .of "users" true (·.users) (fun v s => { s with users := some v })
      (list (budget - 1) (userShape.read (budget - 2))),
    .of "subscribers" true (·.subscriptions) (fun v s => { s with subscriptions := some v })
      (list (budget - 1) ((subscriptionShape (budget - 2)).read (budget - 2))),
    .of "issues" true (·.issues) (fun v s => { s with issues := some v })
      (list (budget - 1) ((issueShape (budget - 2)).read (budget - 2)))]
  empty := {}
  finish s := do
    let analysis ← present "analysis" s.analysis
    let project ← present "project" s.project
    pure {
      analysis, project
      rules := s.rules.getD []
      users := s.users.getD []
      subscriptions := s.subscriptions.getD []
      issues := s.issues.getD [] }

/-- The fixture that a text describes. -/
def Entry.ofText (s : String) : Except Problem Entry :=
  whole ((shape depthBudget).read depthBudget) s

end IssueNotice.Fixture
