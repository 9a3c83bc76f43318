import IssueNotice.Batch
import IssueNotice.Component.FileIndex
import IssueNotice.Counters
import IssueNotice.LeakPeriod
import IssueNotice.Notice.Draft
import IssueNotice.Run.Collaborators

/-!
# Notification runs

A run sends the notices of one analysis. It reads the issues twice: first for their assignees, whose
user records are then looked up together, and then to route each issue. Changed issues are announced
in batches while the issues are read; new issues are counted and notified afterwards, once for the
project and once for each assignee with an issue on the leak period.

`execute` is the whole run. Two gates stand before it: silent branches, and projects without a
subscriber. A failure of any collaborator ends the run after a last message; counters are reported
only by a run that does not fail.
-/

namespace IssueNotice.Run

/-- What a run is about. -/
structure Request where
  analysis : Analysis
  tree : ComponentTree

/-- How a run that does not fail ends. -/
inductive Ending where
  /-- Pull request or short-lived branch: nothing was done. -/
  | skippedBranch
  /-- Nobody wants any notice of the project. -/
  | noSubscribers
  | completed
  deriving Repr, DecidableEq

/-- The word for an ending. -/
def Ending.word : Ending → String
  | skippedBranch => "skipped-branch"
  | noSubscribers => "no-subscribers"
  | completed => "completed"

/-- What a run that does not fail answers. -/
structure Response where
  ending : Ending
  counters : Counters := {}
  deriving Repr, DecidableEq

/-! ## What is fixed before the issues are routed -/

/-- What notices are drafted from. -/
structure Desk where
  draft : Draft
  /-- The components of the project. -/
  tree : ComponentTree
  /-- The assignees of all issues, by uuid. -/
  users : Keyed User

/-- The desk of a request, once the assignees are known. -/
def Request.desk (r : Request) (users : Keyed User) : Desk where
  draft := ⟨r.analysis, r.tree.project⟩
  tree := r.tree
  users := users

/-- The notice of a changed issue, given its rule and its file. -/
def Desk.change (d : Desk) (i : Issue) (rule : Option Rule) (file : Option Component) :
    Except Failure Notice :=
  let assignee := i.assignee.bind fun uuid => d.users[uuid]?
  (d.draft.change rule i assignee file).map .change

/-! ## Steps of a run -/

/-- What is known while the issues are read the second time. -/
structure Progress (t : ComponentTree) where
  /-- The files of the project, by key, once one of them was looked up. -/
  index : FileIndex t := {}
  rollup : Rollup := {}
  batch : Batch Issue := {}
  counters : Counters := {}
  /-- Number of changed issues announced so far. -/
  announced : Nat := 0

variable {σ : Type} (c : Collaborators σ)

/--
Hands notices of one kind to both channels: all of them by email, then each by the legacy channel.
They count as a given number of notices.
-/
def send (kind : NoticeKind) (counted : Nat) (notices : List Notice) (counters : Counters) :
    Traced σ Counters := do
  let reached ← .call (.sendBulk notices) (c.sendBulk notices)
  let counters := (counters.addDeliveries kind reached).addNotices kind counted
  Traced.fold (fun counters notice => do
    let reached ← .call (.sendSingle notice) (c.sendSingle notice)
    pure (counters.addDeliveries kind reached)) counters notices

/-- Drafts the notice of a changed issue in a file, looking up its rule. -/
def draftChange (d : Desk) (i : Issue) (file : Option Component) : Traced σ Notice := do
  let rule ← .call (.findRule i.ruleKey) (c.findRule i.ruleKey)
  Traced.ofExcept (d.change i rule file)

/-- Drafts the notices of changed issues, looking up the file of each in an index. -/
def draftChanges (d : Desk) (index : FileIndex d.tree) (issues : List Issue) :
    Traced σ (List Notice × FileIndex d.tree) :=
  Traced.mapAccum (fun index i => do
    let (file, index) := index.find i.component
    let notice ← draftChange c d i (file.map d.tree.component)
    pure (notice, index)) index issues

/-- Announces the changed issues of the batch; all notices are drafted before the first is sent. -/
def announce (d : Desk) (p : Progress d.tree) : Traced σ (Progress d.tree) := do
  let (issues, batch) := p.batch.take
  let (notices, index) ← draftChanges c d p.index issues
  let counters ← send c .issueChanges 1 notices p.counters
  let announced := p.announced + issues.length
  .note (.progress announced "changed issues notified")
  pure { p with index, batch, counters, announced }

/-- Routes one issue; a batch that becomes full is announced at once. -/
def routeIssue (period : LeakPeriod) (d : Desk) (p : Progress d.tree) (i : Issue) :
    Traced σ (Progress d.tree) :=
  match period.route i with
  | .ignored => pure p
  | .counted onLeak => pure { p with rollup := p.rollup.add i onLeak }
  | .announced =>
    let p := { p with batch := p.batch.push i }
    if p.batch.isFull then announce c d p else pure p

/-- Routes all issues and announces what is left in the batch. -/
def routeIssues (period : LeakPeriod) (d : Desk) : Traced σ (Progress d.tree) := do
  let p ← c.foldIssues (routeIssue c period d) {}
  if p.batch.isEmpty then pure p else announce c d p

/-- Sends the notice of all new issues. -/
def sendNewIssues (d : Desk) (rollup : Rollup) (counters : Counters) : Traced σ Counters := do
  let notice := Notice.newIssues (d.draft.newIssues rollup.overall d.users)
  .note (.report ("📣 Sending new issues notification "
    ++ s!"({rollup.overall.countOnLeak} issue(s) on leak period)"))
  send c .newIssues 1 [notice] counters

/-- Sends each assignee with an issue on the leak period the notice of their own new issues. -/
def sendMyNewIssues (d : Desk) (rollup : Rollup) (counters : Counters) : Traced σ Counters := do
  let owners := rollup.assigneesOnLeak
  let users ← c.resolveUsers (owners.map Prod.fst)
  if owners.isEmpty then pure counters
  else do
    let notices := owners.map fun (uuid, statistics) =>
      Notice.myNewIssues (d.draft.myNewIssues uuid statistics users[uuid]?)
    .note (.report s!"📣 Sending {notices.length} personal new issues notification(s)")
    send c .myNewIssues notices.length notices counters

/-- The uuids of all assignees, in order. -/
def assigneeUuids : Traced σ (List String) := do
  let uuids ← c.foldIssues (fun uuids i => pure (uuids.insertMany i.assignee.toList))
    (∅ : TextSet)
  pure uuids.toList

/-- Sends all notices of an analysis and counts them. -/
def sendAll (r : Request) : Traced σ Counters := do
  let users ← c.resolveUsers (← assigneeUuids c)
  .note (.report s!"👤 Resolved {users.size} assignee(s)")
  let d := r.desk users
  let p ← routeIssues c (.ofAnalysisDate r.analysis.date) d
  if p.rollup.overall.hasOnLeak then do
    let counters ← sendNewIssues c d p.rollup p.counters
    sendMyNewIssues c d p.rollup counters
  else pure p.counters

/-- Sends all notices if anybody wants any. -/
def sendIfWanted (r : Request) : Traced σ Response := do
  let wanted ← .call (.askSubscribers r.analysis.projectUuid NoticeKind.all)
    (c.hasSubscribers r.analysis.projectUuid NoticeKind.all)
  if wanted then do
    let counters ← sendAll c r
    pure { ending := .completed, counters }
  else do
    .note (.report "🔕 No subscriber for issue notifications on this project")
    pure { ending := .noSubscribers }

/-- Reports the counters of a run, then its end. -/
def conclude (response : Response) : Traced σ Response := do
  let counters := response.counters
  Traced.fold (fun _ (name, value) => .note (.counter name value)) () counters.entries
  .note (.completed (s!"✅ Issue notifications: {counters.issueChanges.notices} change batch(es), "
    ++ s!"{counters.newIssues.notices} new issues, {counters.myNewIssues.notices} personal"))
  pure response

/-- Sends the notices of an analysis. -/
def execute (r : Request) : Traced σ Response :=
  if r.analysis.branch.isSilent then do
    .note (.report s!"⏭️  Skipping issue notifications on branch '{r.analysis.branch.name}'")
    pure { ending := .skippedBranch }
  else do
    let response ← (sendIfWanted c r).onFailure fun e =>
      .note (.failed s!"❌ Issue notifications failed: {e.message}")
    conclude response

end IssueNotice.Run
