import IssueNotice.Proofs.Fixture.Outline

/-!
# What is read off a fixture

`Entry.words` are the words of a fixture in the order in which they are checked: the kinds of its
components in depth-first order, the kind of its branch, the words of each subscription, its channel
first, and the types of its issues. `Entry.Carried` says of a recorded analysis that it has what the
fixture says, field by field and nothing else.

* `convert_exact`: a fixture is accepted iff all its words are known. If one is not, the first such
  is quoted in the failure, and if all are, what comes out carries the fixture.
-/

namespace IssueNotice.Fixture

/-! ## The parts of a fixture -/

/-- An analysis has what is written. -/
structure AnalysisEntry.Carried (e : AnalysisEntry) (a : Analysis) : Prop where
  projectUuid : a.projectUuid = e.projectUuid
  date : a.date = e.date
  branchName : a.branch.name = e.branch.name
  branchKind : BranchKind.ofText e.branch.kind = .ok a.branch.kind
  isMain : a.branch.isMain = e.branch.isMain
  pullRequest : a.pullRequest = e.pullRequest

theorem AnalysisEntry.analysis_reads (e : AnalysisEntry) :
    Reads e.analysis [⟨.branchKind, e.branch.kind⟩] e.Carried :=
  (Reads.branchKind e.branch.kind).map fun _ hk => ⟨rfl, rfl, rfl, hk, rfl, rfl⟩

/-- A subscription has what is written. -/
structure SubscriptionEntry.Carried (e : SubscriptionEntry) (s : Subscription) : Prop where
  login : s.login = e.login
  channel : Channel.ofText e.channel = .ok s.channel
  kinds : List.Forall₂ (fun text kind => NoticeKind.ofText text = .ok kind) e.kinds s.kinds

/-- The words of a subscription, the channel before the kinds. -/
def SubscriptionEntry.words (e : SubscriptionEntry) : List Word :=
  ⟨.channel, e.channel⟩ :: e.kinds.map (⟨.noticeKind, ·⟩)

theorem SubscriptionEntry.subscription_reads (e : SubscriptionEntry) :
    Reads e.subscription e.words e.Carried := by
  have hkinds : Reads (e.kinds.mapM NoticeKind.ofText) (e.kinds.map (⟨.noticeKind, ·⟩))
      (List.Forall₂ (fun text kind => NoticeKind.ofText text = .ok kind) e.kinds) := by
    rw [List.map_eq_flatMap]
    exact Reads.mapM fun text _ => Reads.noticeKind text
  exact (Reads.channel e.channel).bind fun c hc => hkinds.map fun kinds hkinds => ⟨rfl, hc, hkinds⟩

/-- An issue has what is written. It is new and changed as it is flagged, and a notice of its change
is due if it is flagged as changed and as one to be notified. -/
structure IssueEntry.Carried (e : IssueEntry) (i : Issue) : Prop where
  key : i.key = e.key
  ruleKey : i.ruleKey = e.ruleKey
  type : RuleType.ofText e.type = .ok i.type
  component : i.component = e.component
  created : i.created = e.created
  message : i.message = e.message
  severity : i.severity = e.severity
  status : i.status = e.status
  resolution : i.resolution = e.resolution
  assignee : i.assignee = e.assignee
  effort : i.effort = e.effort
  tags : i.tags = e.tags
  isNew : i.isNew = e.isNew
  isChanged : i.isChanged = e.isChanged
  notifyDue : i.notifyDue = (e.isChanged && e.sendNotifications)

theorem IssueEntry.issue_reads (e : IssueEntry) :
    Reads e.issue [⟨.ruleType, e.type⟩] e.Carried := by
  refine (Reads.ruleType e.type).map fun t ht => ?_
  have hflags : ∀ changed notify : Bool,
      (Change.ofFlags changed notify != .unchanged) = changed ∧
        (Change.ofFlags changed notify == .notifiable) = (changed && notify) := by
    decide
  obtain ⟨hchanged, hnotify⟩ := hflags e.isChanged e.sendNotifications
  exact ⟨rfl, rfl, ht, rfl, rfl, rfl, rfl, rfl, rfl, rfl, rfl, rfl, rfl, hchanged, hnotify⟩

/-! ## The whole fixture -/

/-- The words of a fixture, in the order in which they are checked. -/
def Entry.words (e : Entry) : List Word :=
  e.project.preOrder.map (·.word) ++ ([⟨.branchKind, e.analysis.branch.kind⟩] ++
    (e.subscriptions.flatMap (·.words) ++ e.issues.map fun i => ⟨.ruleType, i.type⟩))

/-- A recorded analysis has what is written: the project that is described, and the rules, users,
subscriptions and issues in the order in which they are listed. -/
structure Entry.Carried (e : Entry) (f : Fixture) : Prop where
  project : e.project.outline = .ok (f.request.tree.outline f.request.tree.root)
  analysis : e.analysis.Carried f.request.analysis
  rules : f.rules = e.rules
  users : f.users = e.users
  subscriptions : List.Forall₂ SubscriptionEntry.Carried e.subscriptions f.subscriptions
  issues : List.Forall₂ IssueEntry.Carried e.issues f.issues

/-- **A fixture is read word by word** and carried over. -/
theorem ofEntry_reads (e : Entry) : Reads (ofEntry e) e.words e.Carried := by
  have hissues : Reads (e.issues.mapM IssueEntry.issue)
      (e.issues.map fun i => (⟨.ruleType, i.type⟩ : Word))
      (List.Forall₂ IssueEntry.Carried e.issues) := by
    rw [List.map_eq_flatMap]
    exact Reads.mapM fun i _ => i.issue_reads
  have hsubscriptions : Reads (e.subscriptions.mapM SubscriptionEntry.subscription)
      (e.subscriptions.flatMap (·.words))
      (List.Forall₂ SubscriptionEntry.Carried e.subscriptions) :=
    Reads.mapM fun s _ => s.subscription_reads
  refine (tree_reads e.project).bind fun t ht => ?_
  refine e.analysis.analysis_reads.bind fun a ha => ?_
  refine hsubscriptions.bind fun subscriptions hs => ?_
  refine hissues.map fun issues hi => ⟨?_, ha, rfl, rfl, hs, hi⟩
  exact (ht.2 0 e.project (by rw [ComponentEntry.preOrder_eq]; rfl)).2

/-- **Conversion is all or nothing, and faithful.** A fixture is accepted iff all its words are
known. The first unknown one is quoted in the failure, which names the path; if there is none, what
comes out carries the fixture, and a change notice is due only for a changed issue. -/
theorem convert_exact (path : String) (e : Entry) :
    ((∃ f, convert path e = .ok f) ↔ ∀ w ∈ e.words, w.isKnown = true) ∧
      match Word.firstUnknown e.words with
      | some w =>
        convert path e = .error (.malformedFixture path w.unknown.message) ∧
          ∃ before after, w.unknown.message = before ++ w.text ++ after
      | none =>
        ∃ f, convert path e = .ok f ∧ e.Carried f ∧
          ∀ i ∈ f.issues, i.notifyDue = true → i.isChanged = true := by
  have hread := ofEntry_reads e
  rw [← Word.firstUnknown_eq_none]
  cases hwords : Word.firstUnknown e.words with
  | some w =>
    have herror : convert path e = .error (.malformedFixture path w.unknown.message) := by
      rw [convert, hread.of_some hwords]
      rfl
    refine ⟨?_, herror, w.quoted_unknown⟩
    rw [herror]
    exact ⟨fun ⟨_, h⟩ => (nomatch h), fun h => (nomatch h)⟩
  | none =>
    obtain ⟨f, hf, hcarried⟩ := hread.of_none hwords
    have hok : convert path e = .ok f := by
      rw [convert, hf]
      rfl
    exact ⟨⟨fun _ => rfl, fun _ => ⟨f, hok⟩⟩, f, hok, hcarried,
      fun i _ => Issue.isChanged_of_notifyDue⟩

end IssueNotice.Fixture
