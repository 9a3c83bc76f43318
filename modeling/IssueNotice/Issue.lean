import IssueNotice.Instant
import IssueNotice.Text.Casing
import IssueNotice.Vocabulary

/-!
# Issues

An issue as an analysis recorded it: what raised it, where, when, and what became of it since the
last analysis.
-/

namespace IssueNotice

/-- Type of the rule that raised an issue. -/
inductive RuleType where
  | codeSmell
  | bug
  | vulnerability
  | securityHotspot
  deriving Repr, DecidableEq

namespace RuleType

/-- The word for a rule type. -/
def word : RuleType → String
  | codeSmell => "CODE_SMELL"
  | bug => "BUG"
  | vulnerability => "VULNERABILITY"
  | securityHotspot => "SECURITY_HOTSPOT"

/-- The rule type that a text names, in any case. -/
def ofText (s : String) : Except UnknownWord RuleType :=
  match Text.upperWord s with
  | "CODE_SMELL" => .ok codeSmell
  | "BUG" => .ok bug
  | "VULNERABILITY" => .ok vulnerability
  | "SECURITY_HOTSPOT" => .ok securityHotspot
  | _ => .error ⟨.ruleType, s⟩

end RuleType

/-- What happened to an issue since the previous analysis. -/
inductive Change where
  | unchanged
  /-- Changed, but nobody is to be told. -/
  | silent
  /-- Changed, and a change notice is due. -/
  | notifiable
  deriving Repr, DecidableEq

/-- The change of an issue by its two flags; without a change no notice is due. -/
def Change.ofFlags (changed notify : Bool) : Change :=
  if changed then (if notify then .notifiable else .silent) else .unchanged

/-- An issue as an analysis recorded it. -/
structure Issue where
  key : String
  ruleKey : String
  type : RuleType
  /-- Key of the component it was raised on. -/
  component : String
  created : Instant
  message : Option String := none
  severity : Option String := none
  status : Option String := none
  resolution : Option String := none
  /-- Uuid of the user it is assigned to. -/
  assignee : Option String := none
  /-- Minutes needed to resolve it. -/
  effort : Option Nat := none
  tags : List String := []
  /-- Introduced by this analysis. -/
  isNew : Bool := false
  change : Change := .unchanged
  deriving Repr, DecidableEq

namespace Issue

/-- Whether the issue changed since the previous analysis. -/
def isChanged (i : Issue) : Bool :=
  i.change != .unchanged

/-- Whether a change notice is due. -/
def notifyDue (i : Issue) : Bool :=
  i.change == .notifiable

/-- Security hotspots are reviewed, not notified. -/
def isHotspot (i : Issue) : Bool :=
  i.type == .securityHotspot

/-- New and not resolved yet. -/
def isNewUnresolved (i : Issue) : Bool :=
  i.isNew && i.resolution.isNone

/-- A change notice is due only for a changed issue. -/
theorem isChanged_of_notifyDue {i : Issue} (h : i.notifyDue = true) : i.isChanged = true := by
  simp only [notifyDue, beq_iff_eq] at h
  simp [isChanged, h]

end Issue

end IssueNotice
