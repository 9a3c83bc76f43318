import IssueNotice.Issue
import IssueNotice.Text.Keyed

/-!
# Statistics of new issues

New issues are counted by rule type, tag, component, assignee and rule, on the leak period and off
it, and their effort is summed. `Rollup` keeps these statistics for the project and for each
assignee.

`Distribution.topOnLeak` lists the values with the most issues on the leak period; equal counts stay
in the order of their keys.
-/

namespace IssueNotice

/-- A sum split into a part on the leak period and a part off it. -/
structure LeakCount where
  onLeak : Nat := 0
  offLeak : Nat := 0
  deriving Repr, DecidableEq

namespace LeakCount

/-- Adds to one of the parts. -/
def add (c : LeakCount) (onLeak : Bool) (n : Nat) : LeakCount :=
  if onLeak then { c with onLeak := c.onLeak + n } else { c with offLeak := c.offLeak + n }

/-- Both parts together. -/
def total (c : LeakCount) : Nat := c.onLeak + c.offLeak

end LeakCount

/-- Counts of the values of one metric, and their sum. -/
structure Distribution where
  total : LeakCount := {}
  byValue : Keyed LeakCount := ∅
  deriving DecidableEq

namespace Distribution

/-- Counts one more issue with a value. -/
def increment (d : Distribution) (onLeak : Bool) (value : String) : Distribution where
  total := d.total.add onLeak 1
  byValue := d.byValue.alter value fun c => some ((c.getD {}).add onLeak 1)

/-- Counts one more issue for each of its values. -/
def addAll (d : Distribution) (onLeak : Bool) (values : List String) : Distribution :=
  values.foldl (·.increment onLeak) d

/-- The count of a value. -/
def get? (d : Distribution) (value : String) : Option LeakCount := d.byValue[value]?

/-- Values and their counts, in code point order. -/
def toList (d : Distribution) : List (String × LeakCount) := d.byValue.toList

/-- The values with the most issues on the leak period, highest first, equal counts in key order. -/
def topOnLeak (d : Distribution) (limit : Nat) : List (String × Nat) :=
  let entries := d.toList.filterMap fun (value, c) =>
    if 0 < c.onLeak then some (value, c.onLeak) else none
  (entries.mergeSort fun a b => b.2 ≤ a.2).take limit

end Distribution

/-- What new issues are counted by. -/
inductive Metric where
  | ruleType
  | tag
  | component
  | assignee
  | rule
  deriving Repr, DecidableEq

namespace Metric

/-- Every metric. -/
def all : List Metric := [ruleType, tag, component, assignee, rule]

/-- The name of a metric. -/
def name : Metric → String
  | ruleType => "ruleType"
  | tag => "tag"
  | component => "component"
  | assignee => "assignee"
  | rule => "rule"

/-- The values under which an issue is counted, with repetition. -/
def values (m : Metric) (i : Issue) : List String :=
  match m with
  | ruleType => [i.type.word]
  | tag => i.tags
  | component => [i.component]
  | assignee => i.assignee.toList
  | rule => [i.ruleKey]

end Metric

/-- One value for each metric. -/
structure PerMetric (α : Type) where
  ruleType : α
  tag : α
  component : α
  assignee : α
  rule : α
  deriving DecidableEq

namespace PerMetric

variable {α : Type}

/-- The value for a metric. -/
def get (p : PerMetric α) : Metric → α
  | .ruleType => p.ruleType
  | .tag => p.tag
  | .component => p.component
  | .assignee => p.assignee
  | .rule => p.rule

/-- A value for each metric by a rule. -/
def ofFn (f : Metric → α) : PerMetric α where
  ruleType := f .ruleType
  tag := f .tag
  component := f .component
  assignee := f .assignee
  rule := f .rule

@[simp] theorem get_ofFn (f : Metric → α) (m : Metric) : (ofFn f).get m = f m := by
  cases m <;> rfl

end PerMetric

/-- The statistics of some new issues. -/
structure Statistics where
  distributions : PerMetric Distribution := .ofFn fun _ => {}
  /-- Minutes needed to resolve the issues. -/
  effort : LeakCount := {}
  deriving DecidableEq

namespace Statistics

/-- The distribution of a metric. -/
def distribution (s : Statistics) (m : Metric) : Distribution := s.distributions.get m

/-- Counts one more issue. -/
def add (s : Statistics) (i : Issue) (onLeak : Bool) : Statistics where
  distributions := .ofFn fun m => (s.distribution m).addAll onLeak (m.values i)
  effort := s.effort.add onLeak (i.effort.getD 0)

/-- Number of issues on the leak period. -/
def countOnLeak (s : Statistics) : Nat := (s.distribution .ruleType).total.onLeak

/-- Whether any issue is on the leak period. -/
def hasOnLeak (s : Statistics) : Bool := 0 < s.countOnLeak

end Statistics

/-- Statistics of all new issues, and of those of each assignee. -/
structure Rollup where
  overall : Statistics := {}
  byAssignee : Keyed Statistics := ∅
  deriving DecidableEq

namespace Rollup

/-- Counts one more issue, and counts it for its assignee. -/
def add (r : Rollup) (i : Issue) (onLeak : Bool) : Rollup where
  overall := r.overall.add i onLeak
  byAssignee :=
    match i.assignee with
    | none => r.byAssignee
    | some uuid => r.byAssignee.alter uuid fun s => some ((s.getD {}).add i onLeak)

/-- Assignees with an issue on the leak period, in the order of their uuids. -/
def assigneesOnLeak (r : Rollup) : List (String × Statistics) :=
  r.byAssignee.toList.filter fun (_, s) => s.hasOnLeak

end Rollup

end IssueNotice
