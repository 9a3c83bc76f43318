import IssueNotice.Issue
import IssueNotice.User

/-!
# Fixture entries

A recorded analysis as it is written in a fixture: words of vocabularies are still texts, and the
project is a nested description.
-/

namespace IssueNotice.Fixture

/-- A branch as it is written. -/
structure BranchEntry where
  name : String
  kind : String := "long"
  isMain : Bool := false
  deriving Repr, DecidableEq

/-- An analysis as it is written. -/
structure AnalysisEntry where
  projectUuid : String
  date : Instant
  branch : BranchEntry
  pullRequest : Option String
  deriving Repr, DecidableEq

/-- A component and everything below it, as they are written. -/
inductive ComponentEntry where
  | mk (key uuid name kind : String) (version : Option String) (children : List ComponentEntry)

namespace ComponentEntry

/-- The word that stands for its kind. -/
def kind : ComponentEntry → String
  | .mk _ _ _ kind _ _ => kind

/-- What stands right below it. -/
def children : ComponentEntry → List ComponentEntry
  | .mk _ _ _ _ _ children => children

/-- An entry and everything below it, each before what is below it and siblings in order. -/
def preOrder : ComponentEntry → List ComponentEntry
  | .mk key uuid name kind version children =>
    .mk key uuid name kind version children :: children.flatMap preOrder

theorem preOrder_eq (e : ComponentEntry) : e.preOrder = e :: e.children.flatMap (·.preOrder) := by
  cases e
  rw [preOrder]
  rfl

end ComponentEntry

/-- A subscription as it is written. -/
structure SubscriptionEntry where
  login : String
  channel : String := "email"
  kinds : List String
  deriving Repr, DecidableEq

/-- An issue as it is written. -/
structure IssueEntry where
  key : String
  ruleKey : String
  type : String
  component : String
  created : Instant
  message : Option String
  severity : Option String
  status : Option String
  resolution : Option String
  assignee : Option String
  effort : Option Nat
  tags : List String := []
  isNew : Bool := false
  isChanged : Bool := false
  sendNotifications : Bool := false
  deriving Repr, DecidableEq

/-- A recorded analysis as it is written. -/
structure Entry where
  analysis : AnalysisEntry
  project : ComponentEntry
  rules : List Rule := []
  users : List User := []
  subscriptions : List SubscriptionEntry := []
  issues : List IssueEntry := []

end IssueNotice.Fixture
