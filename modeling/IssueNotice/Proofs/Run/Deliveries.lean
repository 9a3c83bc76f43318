import IssueNotice.Proofs.Run.Completion
import IssueNotice.Proofs.Run.Store

/-!
# What a run hands over

`sendings` are the notices that a run hands to the two channels, in order. On a long-lived branch
with a subscriber, and with collaborators that answer, they are determined by the issues:

* `sendings_execute`: with all rules known, each chunk of a thousand changed issues is handed over,
  by email and then one by one; then the notice of all new issues, if one of them is on the leak
  period; then the notices of the assignees of such issues.
* `execute_unknownRule`: a run fails iff the rule of a changed issue is not known. The chunks in
  front of the one with the first such issue were handed over by then, and nothing else was.
-/

namespace IssueNotice

/-- Whether an event hands notices over. -/
def Event.isSending : Event → Bool
  | .sendBulk _ | .sendSingle _ => true
  | _ => false

namespace Run

/-- The events that hand notices over, in order. -/
def sendings (acts : List Act) : List Event :=
  (acts.filterMap Act.event?).filter Event.isSending

/-- Handing notices over shows outside. -/
theorem sendings_eq (acts : List Act) : sendings acts = (outward acts).filter Event.isSending := by
  rw [sendings, outward, List.filter_filter]
  congr 1
  funext e
  cases e <;> rfl

/-! ## The sendings of a course -/

theorem filter_handed (notices : List Notice) :
    (handed notices).filter Event.isSending = handed notices := by
  rw [List.filter_eq_self, handed]
  intro e he
  rcases List.mem_cons.mp he with rfl | he
  · rfl
  · obtain ⟨notice, -, rfl⟩ := List.mem_map.mp he
    rfl

theorem filter_handedIfAny (notices : List Notice) :
    (handedIfAny notices).filter Event.isSending = handedIfAny notices := by
  unfold handedIfAny
  split
  · rfl
  · exact filter_handed notices

theorem filter_flatMap_handed (batches : List (List Notice)) :
    (batches.flatMap handed).filter Event.isSending = batches.flatMap handed := by
  rw [List.filter_flatMap]
  congr 1
  funext notices
  exact filter_handed notices

theorem filter_lookups (uuids : List String) :
    (Collaborators.lookups uuids).filter Event.isSending = [] := by
  unfold Collaborators.lookups
  split <;> rfl

theorem filter_counters (entries : List (String × Nat)) :
    (entries.map fun (name, value) => Event.counter name value).filter Event.isSending = [] := by
  rw [List.filter_eq_nil_iff]
  intro e he
  obtain ⟨entry, -, rfl⟩ := List.mem_map.mp he
  exact Bool.false_ne_true

variable {σ : Type} {c : Collaborators σ} {issues : List Issue} {r : Request}

theorem Course.sendings_seen (k : Course c r issues) :
    k.seen.filter Event.isSending = k.batches.flatMap handed ++
      (handedIfAny (r.overallNotices issues k.users) ++
        handedIfAny (r.personalNotices issues k.personal)) := by
  unfold Course.seen
  simp only [List.filter_append, filter_lookups, filter_flatMap_handed, filter_handedIfAny,
    List.nil_append]

/-! ## Who is notified of new issues -/

/-- There is a new issue on the leak period iff one was routed so. -/
theorem hasOnLeak_rollup : (r.rollup issues).overall.hasOnLeak = true ↔
    ∃ i ∈ issues, r.period.route i = .counted true := by
  rw [Request.rollup, Rollup.overall_addAll]
  refine (Statistics.hasOnLeak_addAll _).trans ?_
  constructor
  · rintro ⟨⟨i, onLeak⟩, hp, rfl⟩
    exact ⟨i, LeakPeriod.mem_counted.mp hp⟩
  · rintro ⟨i, hi⟩
    exact ⟨(i, true), LeakPeriod.mem_counted.mpr hi, rfl⟩

/-- The owners are the assignees of the new issues on the leak period. -/
theorem mem_owners {uuid : String} : uuid ∈ r.owners issues ↔
    ∃ i ∈ issues, r.period.route i = .counted true ∧ i.assignee = some uuid := by
  refine Rollup.mem_owners_addAll.trans ?_
  constructor
  · rintro ⟨⟨i, onLeak⟩, hp, ha, rfl⟩
    obtain ⟨hi, hr⟩ := LeakPeriod.mem_counted.mp hp
    exact ⟨i, hi, hr, ha⟩
  · rintro ⟨i, hi, hr, ha⟩
    exact ⟨(i, true), LeakPeriod.mem_counted.mpr ⟨hi, hr⟩, ha, rfl⟩

theorem handedIfAny_overallNotices (users : Keyed User) :
    handedIfAny (r.overallNotices issues users) =
      if ∃ i ∈ issues, r.period.route i = .counted true then
        handed [r.overallNotice issues users]
      else [] := by
  unfold Request.overallNotices
  by_cases hl : ∃ i ∈ issues, r.period.route i = .counted true
  · rw [if_pos (hasOnLeak_rollup.mpr hl), if_pos hl]
    rfl
  · rw [if_neg (fun h => hl (hasOnLeak_rollup.mp h)), if_neg hl]
    rfl

theorem handedIfAny_personalNotices (users : Keyed User) :
    handedIfAny (r.personalNotices issues users) =
      if r.owners issues = [] then []
      else handed ((r.owners issues).map (r.personalNotice issues users)) := by
  simp only [handedIfAny, Request.personalNotices, List.map_eq_nil_iff]

/-! ## Runs with all rules known -/

theorem not_isSilent_of_long (hb : r.analysis.branch.kind = .long) :
    r.analysis.branch.isSilent = false := by
  rw [Branch.isSilent, hb]
  rfl

/-- **What is handed over, in order and each once.** First come the chunks of a thousand changed
issues, then the notice of all new issues, then those of the assignees. -/
theorem sendings_execute (hb : r.analysis.branch.kind = .long)
    (hg : ∀ s, (c.hasSubscribers r.analysis.projectUuid NoticeKind.all s).1 = .ok true)
    (h : c.Answers issues)
    (hk : ∀ i ∈ issues, r.period.route i = .announced → c.Knows i.ruleKey) (s : σ) :
    ∃ (users personal : Keyed User) (batches : List (List Notice)) (owners : List String),
      c.Resolves (assignees issues) users ∧ c.Resolves owners personal ∧
      List.Forall₂ (List.Forall₂ (c.Drafts (r.desk users)))
        (chunks 1000 (r.period.changed issues)) batches ∧
      owners.Pairwise (· < ·) ∧
      (∀ uuid, uuid ∈ owners ↔
        ∃ i ∈ issues, r.period.route i = .counted true ∧ i.assignee = some uuid) ∧
      sendings (execute c r s).acts = batches.flatMap handed ++
        ((if ∃ i ∈ issues, r.period.route i = .counted true then
            handed [r.overallNotice issues users] else []) ++
          (if owners = [] then [] else
            handed (owners.map (r.personalNotice issues personal)))) ∧
      ∃ counters, (execute c r s).result = .ok ⟨.completed, counters⟩ := by
  have hknown : ∀ i ∈ r.period.changed issues, c.Knows i.ruleKey := by
    intro i hi
    obtain ⟨hmem, hroute⟩ := LeakPeriod.mem_changed.mp hi
    exact hk i hmem hroute
  obtain ⟨k, t, hy⟩ := execute_yields (not_isSilent_of_long hb) hg h hknown s
  refine ⟨k.users, k.personal, k.batches, r.owners issues, k.resolved, k.personalResolved,
    k.drafted, Rollup.ordered_owners _, fun uuid => mem_owners, ?_, k.counters, hy.result⟩
  rw [sendings_eq, hy.outward, List.filter_append, filter_counters, List.append_nil,
    k.sendings_seen, handedIfAny_overallNotices, handedIfAny_personalNotices]

theorem sendings_sample : ∃ change users personal,
    sendings (execute (sampleStore [⟨"naming", "Naming"⟩]).collaborators sampleRequest {}).acts =
      handed [change] ++
        (handed [sampleRequest.overallNotice sampleIssues users] ++
          handed [sampleRequest.personalNotice sampleIssues personal "ada"]) := by
  have hrule : (sampleStore [⟨"naming", "Naming"⟩]).collaborators.Knows "naming" :=
    Store.knows_iff.mpr ⟨⟨"naming", "Naming"⟩, Std.ExtTreeMap.getElem?_insert_self⟩
  have hroutes : ∀ i ∈ sampleIssues,
      sampleRequest.period.route i = .announced → i.ruleKey = "naming" := by decide
  have ha : (sampleStore [⟨"naming", "Naming"⟩]).collaborators.Answers sampleIssues :=
    Store.answers _
  obtain ⟨users, personal, batches, owners, -, -, hd, hsorted, howners, hsend, -⟩ :=
    sendings_execute (r := sampleRequest) (by decide) (fun _ => rfl) ha
      (fun i hi hr => hroutes i hi hr ▸ hrule) {}
  obtain ⟨i, hchanged⟩ : ∃ i, sampleRequest.period.changed sampleIssues = [i] := ⟨_, rfl⟩
  rw [hchanged, chunks_of_lt (by rw [List.length_singleton]; decide),
    lastChunk_of_ne_nil (List.cons_ne_nil _ _)] at hd
  obtain ⟨change, rfl⟩ : ∃ change, batches = [[change]] := by
    obtain ⟨notices, rest, hn, hrest, rfl⟩ := List.forall₂_cons_left_iff.mp hd
    obtain ⟨change, more, -, hmore, rfl⟩ := List.forall₂_cons_left_iff.mp hn
    rw [List.forall₂_nil_left_iff.mp hrest, List.forall₂_nil_left_iff.mp hmore]
    exact ⟨change, rfl⟩
  have hada : owners = ["ada"] := by
    have hmem : ∀ uuid, uuid ∈ owners ↔ uuid ∈ ["ada"] := by
      intro uuid
      rw [howners, List.mem_singleton]
      constructor
      · rintro ⟨i, hi, hr, hassignee⟩
        have hall : ∀ i ∈ sampleIssues, sampleRequest.period.route i = .counted true →
            i.assignee = some "ada" := by decide
        exact Option.some.inj (hassignee.symm.trans (hall i hi hr))
      · rintro rfl
        decide
    exact List.perm_singleton.mp
      ((List.perm_ext_iff_of_nodup (nodup_of_ordered hsorted) (by simp)).mpr hmem)
  refine ⟨change, users, personal, ?_⟩
  rw [hsend, if_pos (by decide), hada, if_neg (List.cons_ne_nil _ _)]
  rfl

/-- A run over the issues of the small store completes, whoever the users are. -/
theorem sample_completes (users : List User) {m : Messaging}
    (hm : m.hasSubscribers "project" NoticeKind.all = true) : ∃ counters,
    (execute (Store.collaborators ⟨sampleIssues, [⟨"naming", "Naming"⟩], users, m⟩) sampleRequest
      {}).result = .ok ⟨.completed, counters⟩ := by
  let st : Store := ⟨sampleIssues, [⟨"naming", "Naming"⟩], users, m⟩
  have hrule : st.collaborators.Knows "naming" :=
    Store.knows_iff.mpr ⟨⟨"naming", "Naming"⟩, Std.ExtTreeMap.getElem?_insert_self⟩
  have hroutes : ∀ i ∈ sampleRequest.period.changed sampleIssues, i.ruleKey = "naming" := by decide
  obtain ⟨k, t, hy⟩ := execute_yields (r := sampleRequest) (by decide)
    (fun _ => congrArg Except.ok hm) (Store.answers st) (fun i hi => hroutes i hi ▸ hrule) {}
  exact ⟨k.counters, hy.result⟩

/-! ## Runs that meet an unknown rule -/

/-- Where some item has a property, one of them is the first. -/
theorem exists_first {α : Type} {p : α → Prop} {xs : List α} (h : ∃ x ∈ xs, p x) :
    ∃ j x, xs[j]? = some x ∧ p x ∧ ∀ y ∈ xs.take j, ¬ p y := by
  induction xs with
  | nil =>
    obtain ⟨x, hx, -⟩ := h
    exact absurd hx List.not_mem_nil
  | cons y ys ih =>
    by_cases hy : p y
    · exact ⟨0, y, rfl, hy, fun z hz => absurd hz List.not_mem_nil⟩
    · obtain ⟨x, hx, hp⟩ := h
      have hys : x ∈ ys := by
        rcases List.mem_cons.mp hx with rfl | hx
        · exact absurd hp hy
        · exact hx
      obtain ⟨j, z, hj, hz, hfirst⟩ := ih ⟨x, hys, hp⟩
      refine ⟨j + 1, z, hj, hz, ?_⟩
      intro w hw
      rcases List.mem_cons.mp hw with rfl | hw
      · exact hy
      · exact hfirst w hw

/-- If the first unknown rule is that of the `j`-th changed issue, the run ends behind the whole
chunks in front of it. -/
theorem execute_fails_at (hs : r.analysis.branch.isSilent = false)
    (hg : ∀ s, (c.hasSubscribers r.analysis.projectUuid NoticeKind.all s).1 = .ok true)
    (h : c.Answers issues) {j : Nat} {i : Issue} (hj : (r.period.changed issues)[j]? = some i)
    (hl : c.Lacks i.ruleKey) (hk : ∀ k ∈ (r.period.changed issues).take j, c.Knows k.ruleKey)
    (s : σ) :
    ∃ (users : Keyed User) (batches : List (List Notice)) (t : σ),
      c.Resolves (assignees issues) users ∧
      List.Forall₂ (List.Forall₂ (c.Drafts (r.desk users)))
        (chunks changeBatchSize
          ((r.period.changed issues).take (changeBatchSize * (j / changeBatchSize)))) batches ∧
      Traced.Yields (execute c r) s
        (Collaborators.lookups (assignees issues) ++ batches.flatMap handed)
        (.error (.unknownRule i.ruleKey)) t := by
  obtain ⟨known, more, rest, hc, hknown⟩ :=
    chunks_eq_append_mid (n := changeBatchSize) (by decide) hj
  refine execute_fails hs hg h hc ?_ (fun k hk' => hk k (hknown k hk')) hl s
  intro chunk hchunk k hk'
  exact hk k (List.take_subset_take_left _ (Nat.mul_div_le j changeBatchSize)
    (mem_of_mem_chunks hchunk hk'))

/-- **When a run fails, and what was handed over by then.** It fails iff the rule of some changed
issue is not known. If the first such issue is the `j`-th changed one, the whole chunks in front of
it were handed over, and nothing else. -/
theorem execute_unknownRule (hb : r.analysis.branch.kind = .long)
    (hg : ∀ s, (c.hasSubscribers r.analysis.projectUuid NoticeKind.all s).1 = .ok true)
    (h : c.Answers issues)
    (hr : ∀ i ∈ issues, r.period.route i = .announced → c.Knows i.ruleKey ∨ c.Lacks i.ruleKey)
    (s : σ) :
    ((∃ e, (execute c r s).result = .error e) ↔
      ∃ i ∈ issues, r.period.route i = .announced ∧ c.Lacks i.ruleKey) ∧
    ∀ (j : Nat) (i : Issue), (r.period.changed issues)[j]? = some i → c.Lacks i.ruleKey →
      (∀ k ∈ (r.period.changed issues).take j, ¬ c.Lacks k.ruleKey) →
      (execute c r s).result = .error (.unknownRule i.ruleKey) ∧
      ∃ (users : Keyed User) (batches : List (List Notice)),
        c.Resolves (assignees issues) users ∧
        List.Forall₂ (List.Forall₂ (c.Drafts (r.desk users)))
          (chunks 1000 ((r.period.changed issues).take (1000 * (j / 1000)))) batches ∧
        sendings (execute c r s).acts = batches.flatMap handed := by
  have hs := not_isSilent_of_long hb
  have hknown : ∀ i ∈ r.period.changed issues, ¬ c.Lacks i.ruleKey → c.Knows i.ruleKey := by
    intro i hi hl
    obtain ⟨hmem, hroute⟩ := LeakPeriod.mem_changed.mp hi
    exact (hr i hmem hroute).resolve_right hl
  have hfails : ∀ (j : Nat) (i : Issue), (r.period.changed issues)[j]? = some i →
      c.Lacks i.ruleKey → (∀ k ∈ (r.period.changed issues).take j, ¬ c.Lacks k.ruleKey) →
      (execute c r s).result = .error (.unknownRule i.ruleKey) ∧
      ∃ (users : Keyed User) (batches : List (List Notice)),
        c.Resolves (assignees issues) users ∧
        List.Forall₂ (List.Forall₂ (c.Drafts (r.desk users)))
          (chunks 1000 ((r.period.changed issues).take (1000 * (j / 1000)))) batches ∧
        sendings (execute c r s).acts = batches.flatMap handed := by
    intro j i hj hl hfirst
    obtain ⟨users, batches, t, hu, hd, hy⟩ := execute_fails_at hs hg h hj hl
      (fun k hk => hknown k (List.mem_of_mem_take hk) (hfirst k hk)) s
    refine ⟨hy.result, users, batches, hu, hd, ?_⟩
    rw [sendings_eq, hy.outward, List.filter_append, filter_lookups, List.nil_append,
      filter_flatMap_handed]
  refine ⟨⟨?_, ?_⟩, hfails⟩
  · -- without an unknown rule the run completes
    rintro ⟨e, he⟩
    by_contra hnone
    have hall : ∀ i ∈ r.period.changed issues, c.Knows i.ruleKey := by
      intro i hi
      obtain ⟨hmem, hroute⟩ := LeakPeriod.mem_changed.mp hi
      exact hknown i hi fun hl => hnone ⟨i, hmem, hroute, hl⟩
    obtain ⟨k, t, hy⟩ := execute_yields hs hg h hall s
    rw [hy.result] at he
    exact absurd he (by simp)
  · rintro ⟨i, hmem, hroute, hl⟩
    obtain ⟨j, k, hj, hk, hfirst⟩ := exists_first (p := fun k : Issue => c.Lacks k.ruleKey)
      ⟨i, LeakPeriod.mem_changed.mpr ⟨hmem, hroute⟩, hl⟩
    exact ⟨_, (hfails j k hj hk hfirst).1⟩

/-- A changed issue with a rule that is known. -/
def knownIssue : Issue where
  key := "known"
  ruleKey := "naming"
  type := .bug
  component := "app"
  created := sampleDate (-1)
  change := .notifiable

/-- A whole chunk of changed issues with a rule that is known, then two issues with one that is not:
a changed one and one on the leak period. -/
def strayIssues : List Issue :=
  List.replicate 1000 knownIssue ++ sampleIssues.map fun i => { i with ruleKey := "stray" }

theorem execute_unknownRule_sample :
    let st := { sampleStore [⟨"naming", "Naming"⟩] with issues := strayIssues }
    (execute st.collaborators sampleRequest {}).result = .error (.unknownRule "stray") ∧
      ∃ notices : List Notice, notices.length = 1000 ∧
        sendings (execute st.collaborators sampleRequest {}).acts = handed notices := by
  intro st
  have hnaming : (Rule.byKey st.rules)["naming"]? = some ⟨"naming", "Naming"⟩ :=
    Std.ExtTreeMap.getElem?_insert_self
  have hstray : (Rule.byKey st.rules)["stray"]? = none :=
    (Rule.getElem?_byKey st.rules "stray").trans (by decide)
  have hchanged : sampleRequest.period.changed strayIssues =
      List.replicate 1000 knownIssue ++ [{ sampleIssues[0] with ruleKey := "stray" }] := by
    unfold strayIssues LeakPeriod.changed
    rw [List.filter_append, List.filter_replicate_of_pos rfl]
    rfl
  have hj : (sampleRequest.period.changed strayIssues)[1000]? =
      some { sampleIssues[0] with ruleKey := "stray" } := by
    rw [hchanged, List.getElem?_append_right List.length_replicate.le, List.length_replicate]
    rfl
  have hfront : (sampleRequest.period.changed strayIssues).take 1000 =
      List.replicate 1000 knownIssue := by
    rw [hchanged, List.take_left' List.length_replicate]
  have hfirst : ∀ k ∈ (sampleRequest.period.changed strayIssues).take 1000,
      ¬ st.collaborators.Lacks k.ruleKey := by
    intro k hk hl
    rw [hfront] at hk
    rw [List.eq_of_mem_replicate hk, Store.lacks_iff] at hl
    cases hnaming.symm.trans hl
  obtain ⟨-, hfails⟩ := execute_unknownRule (c := st.collaborators) (r := sampleRequest) (by decide)
    (fun _ => rfl) (Store.answers st) (fun i _ _ => st.knows_or_lacks i.ruleKey) {}
  obtain ⟨hresult, users, batches, -, hd, hsend⟩ :=
    hfails 1000 _ hj (Store.lacks_iff.mpr hstray) hfirst
  have hchunks : chunks 1000 (List.replicate 1000 knownIssue) =
      [List.replicate 1000 knownIssue] := by
    have happend := chunks_append (n := 1000) (by decide)
      (List.length_replicate (n := 1000) (a := knownIssue)) []
    rwa [List.append_nil, chunks_nil (by decide)] at happend
  rw [Nat.div_self (by decide), Nat.mul_one, hfront, hchunks] at hd
  obtain ⟨notices, rest, hn, hrest, rfl⟩ := List.forall₂_cons_left_iff.mp hd
  obtain rfl := List.forall₂_nil_left_iff.mp hrest
  refine ⟨hresult, notices, hn.length_eq.symm.trans List.length_replicate, ?_⟩
  rw [hsend]
  exact List.append_nil _

end Run

end IssueNotice
