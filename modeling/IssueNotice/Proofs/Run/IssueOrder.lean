import IssueNotice.Proofs.Run.Completion
import IssueNotice.Proofs.Run.Store

/-!
# The order of the issues does not matter

Over a store that delivers to subscriptions, two runs whose issues are the same up to order agree:
they end in the same way, report the same counters, look up the same users and send the same notices
of new issues. Only the change notices come in another order (`execute_perm`).

Statistics are folds of commuting updates, the assignees are sets, and a batch reaches as many
recipients as its notices do one by one, so that it does not matter how the changed issues are cut
into batches.
-/

namespace IssueNotice

/-! ## What the issues determine -/

theorem LeakPeriod.changed_perm {p : LeakPeriod} {xs ys : List Issue} (h : xs.Perm ys) :
    (p.changed xs).Perm (p.changed ys) :=
  h.filter _

theorem LeakPeriod.counted_perm {p : LeakPeriod} {xs ys : List Issue} (h : xs.Perm ys) :
    (p.counted xs).Perm (p.counted ys) :=
  h.filterMap _

namespace Run

variable {r : Request} {xs ys : List Issue}

theorem assignees_perm (h : xs.Perm ys) : assignees xs = assignees ys := by
  unfold assignees
  congr 1
  ext uuid
  simp only [mem_foldl_assignee, h.mem_iff]

theorem rollup_perm (h : xs.Perm ys) : r.rollup xs = r.rollup ys :=
  Rollup.addAll_perm (LeakPeriod.counted_perm h) {}

theorem owners_perm (h : xs.Perm ys) : r.owners xs = r.owners ys := by
  unfold Request.owners
  rw [rollup_perm h]

theorem overallNotices_perm (h : xs.Perm ys) (users : Keyed User) :
    r.overallNotices xs users = r.overallNotices ys users := by
  unfold Request.overallNotices Request.overallNotice
  rw [rollup_perm h]

theorem personalNotices_perm (h : xs.Perm ys) (users : Keyed User) :
    r.personalNotices xs users = r.personalNotices ys users := by
  unfold Request.personalNotices
  rw [owners_perm h]
  apply List.map_congr_left
  intro uuid _
  have hown : (ownIssues uuid (r.counted xs)).Perm (ownIssues uuid (r.counted ys)) :=
    (LeakPeriod.counted_perm h).filter _
  unfold Request.personalNotice
  rw [Statistics.addAll_perm hown]

/-! ## What a run tells its collaborators -/

/-- The notices that an event hands to a channel. -/
def handedTo : Channel → Event → List Notice
  | .email, .sendBulk notices => notices
  | .legacy, .sendSingle notice => [notice]
  | _, _ => []

/-- The notices of one kind that a run hands to a channel, in order. -/
def notices (channel : Channel) (kind : NoticeKind) (acts : List Act) : List Notice :=
  ((acts.filterMap Act.event?).flatMap (handedTo channel)).filter fun n => n.kind == kind

/-- The uuids that an event looks up, if it does. -/
def lookup : Event → List (List String)
  | .selectUsers uuids => [uuids]
  | _ => []

/-- The uuids in each lookup of users, in order. -/
def lookedUp (acts : List Act) : List (List String) :=
  (acts.filterMap Act.event?).flatMap lookup

/-- The counter that an event reports, if it does. -/
def counter : Event → List (String × Nat)
  | .counter name value => [(name, value)]
  | _ => []

/-- The counters that a run reports, in order. -/
def reported (acts : List Act) : List (String × Nat) :=
  (acts.filterMap Act.event?).flatMap counter

/-- Two runs agree, but for the order of their change notices. -/
structure Agree {σ : Type} (o p : Outcome σ Response) : Prop where
  result : o.result = p.result
  reported : reported o.acts = reported p.acts
  lookedUp : lookedUp o.acts = lookedUp p.acts
  newIssues : ∀ channel, notices channel .newIssues o.acts = notices channel .newIssues p.acts
  myNewIssues : ∀ channel, notices channel .myNewIssues o.acts = notices channel .myNewIssues p.acts
  issueChanges : ∀ channel,
    (notices channel .issueChanges o.acts).Perm (notices channel .issueChanges p.acts)

/-- An observer that sees nothing but some events sees nothing else of a list. -/
theorem flatMap_filter {α : Type} {p : Event → Bool} {g : Event → List α}
    (h : ∀ e, p e = false → g e = []) (events : List Event) :
    (events.filter p).flatMap g = events.flatMap g := by
  induction events with
  | nil => rfl
  | cons e rest ih =>
    cases he : p e with
    | true => rw [List.filter_cons_of_pos he, List.flatMap_cons, List.flatMap_cons, ih]
    | false =>
      rw [List.filter_cons_of_neg (by simp [he]), List.flatMap_cons, h e he, List.nil_append, ih]

/-- An observer that sees nothing but outward events sees nothing else of a run. -/
theorem flatMap_outward {α : Type} (g : Event → List α) (h : ∀ e, e.isOutward = false → g e = [])
    (acts : List Act) : (acts.filterMap Act.event?).flatMap g = (outward acts).flatMap g :=
  (flatMap_filter h _).symm

theorem notices_eq (channel : Channel) (kind : NoticeKind) (acts : List Act) :
    notices channel kind acts =
      ((outward acts).flatMap (handedTo channel)).filter fun n => n.kind == kind := by
  unfold notices
  rw [flatMap_outward]
  intro e he
  cases channel <;> cases e <;> first | rfl | exact absurd he (by simp [Event.isOutward])

theorem lookedUp_eq (acts : List Act) : lookedUp acts = (outward acts).flatMap lookup := by
  refine flatMap_outward lookup ?_ acts
  intro e he
  cases e <;> first | rfl | exact absurd he (by simp [Event.isOutward])

theorem reported_eq (acts : List Act) : reported acts = (outward acts).flatMap counter := by
  refine flatMap_outward counter ?_ acts
  intro e he
  cases e <;> first | rfl | exact absurd he (by simp [Event.isOutward])

/-- What notices handed over look like to an observer. -/
theorem flatMap_handed (channel : Channel) (notices : List Notice) :
    (handed notices).flatMap (handedTo channel) = notices := by
  unfold handed
  cases channel with
  | email => simp [handedTo, List.flatMap_map]
  | legacy => simp [handedTo, List.flatMap_map]

theorem flatMap_handedIfAny (channel : Channel) (notices : List Notice) :
    (handedIfAny notices).flatMap (handedTo channel) = notices := by
  unfold handedIfAny
  split
  · next h => rw [h]; rfl
  · exact flatMap_handed channel notices

variable {σ : Type} {c : Collaborators σ}

/-- The notices of a course are those of its batches, then those of new issues. -/
theorem Course.flatMap_handedTo (k : Course c r xs) (channel : Channel) :
    k.seen.flatMap (handedTo channel) = k.batches.flatten ++
      (r.overallNotices xs k.users ++ r.personalNotices xs k.personal) := by
  have hlookups : ∀ uuids, (Collaborators.lookups uuids).flatMap (handedTo channel) = [] := by
    intro uuids
    unfold Collaborators.lookups
    split <;> cases channel <;> rfl
  unfold Course.seen
  simp only [List.flatMap_append, hlookups, flatMap_handedIfAny, List.flatMap_assoc,
    flatMap_handed, List.nil_append, List.flatMap_id']

/-- An observer to whom nothing is handed sees the lookups of a course at most. -/
theorem Course.flatMap_lookups {α : Type} {g : Event → List α} (k : Course c r xs)
    (hbulk : ∀ notices, g (.sendBulk notices) = []) (hsingle : ∀ n, g (.sendSingle n) = []) :
    k.seen.flatMap g =
      (Collaborators.lookups (assignees xs) ++ Collaborators.lookups (r.owners xs)).flatMap g := by
  have hhanded : ∀ notices, (handed notices).flatMap g = [] := by
    intro notices
    simp [handed, hbulk, hsingle, List.flatMap_map]
  have hany : ∀ notices, (handedIfAny notices).flatMap g = [] := by
    intro notices
    unfold handedIfAny
    split
    · rfl
    · exact hhanded notices
  unfold Course.seen
  simp [List.flatMap_append, hhanded, hany, List.flatMap_assoc]

section Observed

variable {x : Traced σ Response} {s t : σ} {response : Except Failure Response}

theorem notices_course (k : Course c r xs) {entries : List (String × Nat)}
    (hy : x.Yields s (k.seen ++ entries.map fun (name, value) => .counter name value) response t)
    (channel : Channel) (kind : NoticeKind) :
    notices channel kind (x s).acts =
      (k.batches.flatten ++ (r.overallNotices xs k.users ++
        r.personalNotices xs k.personal)).filter fun n => n.kind == kind := by
  have hcounters : (entries.map fun (name, value) => Event.counter name value).flatMap
      (handedTo channel) = [] := by
    cases channel <;> simp [handedTo, List.flatMap_map]
  rw [notices_eq, hy.outward, List.flatMap_append, k.flatMap_handedTo, hcounters,
    List.append_nil]

theorem lookedUp_course (k : Course c r xs) {entries : List (String × Nat)}
    (hy : x.Yields s (k.seen ++ entries.map fun (name, value) => .counter name value) response t) :
    lookedUp (x s).acts =
      (Collaborators.lookups (assignees xs) ++ Collaborators.lookups (r.owners xs)).flatMap
        lookup := by
  have hcounters : (entries.map fun (name, value) => Event.counter name value).flatMap lookup =
      [] := by
    simp [lookup, List.flatMap_map]
  rw [lookedUp_eq, hy.outward, List.flatMap_append, hcounters, List.append_nil]
  exact k.flatMap_lookups (fun _ => rfl) (fun _ => rfl)

theorem reported_course (k : Course c r xs) {entries : List (String × Nat)}
    (hy : x.Yields s (k.seen ++ entries.map fun (name, value) => .counter name value) response t) :
    reported (x s).acts = entries := by
  have hlookups : ∀ uuids, (Collaborators.lookups uuids).flatMap counter = [] := by
    intro uuids
    unfold Collaborators.lookups
    split <;> rfl
  have hseen : k.seen.flatMap counter = [] := by
    rw [k.flatMap_lookups (fun _ => rfl) (fun _ => rfl), List.flatMap_append, hlookups, hlookups]
    rfl
  rw [reported_eq, hy.outward, List.flatMap_append, hseen]
  simp [counter, List.flatMap_map]

end Observed

/-- The changed issues of a course and their notices, batch by batch put together. -/
theorem Course.drafted_flatten (k : Course c r xs) :
    List.Forall₂ (c.Drafts (r.desk k.users)) (r.period.changed xs) k.batches.flatten := by
  have h := List.rel_flatten k.drafted
  rwa [flatten_chunks] at h

/-- The batches of a course hold change notices and no others. -/
theorem Course.kind_of_mem_batches (k : Course c r xs) :
    ∀ n ∈ k.batches.flatten, n.kind = .issueChanges :=
  forall_mem_of_forall₂ k.drafted_flatten fun _ _ ⟨_, _, _, h⟩ => Desk.kind_of_change h

/-! ## Stores that deliver to subscriptions -/

variable {st : Store}

theorem Store.reached_eq {events : List Event} {reached : List Nat}
    (h : List.Forall₂ st.collaborators.Reaches events reached) :
    reached = events.map st.messaging.reachOf := by
  induction h with
  | nil => rfl
  | cons hn _ ih => rw [List.map_cons, ← Store.eq_reachOf hn, ← ih]

/-- How many recipients a notice reaches on both channels. -/
def Messaging.reachOfNotice (m : Messaging) (n : Notice) : Nat :=
  (m.bulk [n]).2 + (m.single n).2

/-- A batch reaches as many recipients as its notices do one by one. -/
theorem total_reachOf_handed (projectUuid : String) (subscriptions : List Subscription)
    (notices : List Notice) :
    let m := Messaging.subscribed projectUuid subscriptions
    total ((handed notices).map m.reachOf) = total (notices.map m.reachOfNotice) := by
  intro m
  have hbulk : (m.bulk notices).2 = total (notices.map fun n => (m.bulk [n]).2) := by
    change total _ = _
    rw [List.map_map]
    rfl
  calc total ((handed notices).map m.reachOf)
      = (m.bulk notices).2 + total (notices.map fun n => (m.single n).2) := by
        rw [handed, List.map_cons, total_cons, List.map_map]
        rfl
    _ = total (notices.map m.reachOfNotice) := by
        rw [hbulk, ← total_map_add]
        rfl

/-- How the changed issues are cut into batches does not matter for whom they reach. -/
theorem total_reachOf_batches (projectUuid : String) (subscriptions : List Subscription)
    (batches : List (List Notice)) :
    let m := Messaging.subscribed projectUuid subscriptions
    total ((batches.flatMap handed).map m.reachOf) =
      total (batches.flatten.map m.reachOfNotice) := by
  intro m
  induction batches with
  | nil => rfl
  | cons notices rest ih =>
    rw [List.flatMap_cons, List.map_append, total_append, ih, List.flatten_cons, List.map_append,
      total_append, total_reachOf_handed]

section Reordered

variable {projectUuid : String} {subscriptions : List Subscription}
  (hm : st.messaging = .subscribed projectUuid subscriptions) (hp : st.issues.Perm ys)

/-- Over a store, the notice of an issue is determined by the issue. -/
theorem Store.rightUnique_drafts (d : Desk) :
    Relator.RightUnique (st.collaborators.Drafts d) := by
  intro i m n hm hn
  obtain ⟨rule, hr, hm⟩ := drafts_iff.mp hm
  obtain ⟨rule', hr', hn⟩ := drafts_iff.mp hn
  obtain rfl : rule = rule' := Option.some.inj (hr.symm.trans hr')
  exact Except.ok.inj (hm.symm.trans hn)

include hp

theorem Course.users_eq (k : Course st.collaborators r st.issues)
    (l : Course { st with issues := ys }.collaborators r ys) : l.users = k.users := by
  have hk := Store.resolves_iff.mp k.resolved
  have hl := Store.resolves_iff.mp l.resolved
  rw [hk, hl, ← assignees_perm hp]
  rfl

theorem Course.personal_eq (k : Course st.collaborators r st.issues)
    (l : Course { st with issues := ys }.collaborators r ys) : l.personal = k.personal := by
  have hk := Store.resolves_iff.mp k.personalResolved
  have hl := Store.resolves_iff.mp l.personalResolved
  rw [hk, hl, ← owners_perm hp]
  rfl

/-- **The change notices are the same up to order.** -/
theorem Course.batches_perm (k : Course st.collaborators r st.issues)
    (l : Course { st with issues := ys }.collaborators r ys) :
    k.batches.flatten.Perm l.batches.flatten := by
  have hl : List.Forall₂ (st.collaborators.Drafts (r.desk k.users)) (r.period.changed ys)
      l.batches.flatten := by
    have h := l.drafted_flatten
    rw [users_eq hp k l] at h
    exact h.imp fun i n hd => Store.drafts_iff.mpr (Store.drafts_iff.mp hd)
  exact List.rel_perm_imp (Store.rightUnique_drafts _) k.drafted_flatten hl
    (LeakPeriod.changed_perm hp)

/-- **The notices of new issues are the same.** -/
theorem Course.newNotices_eq (k : Course st.collaborators r st.issues)
    (l : Course { st with issues := ys }.collaborators r ys) :
    r.overallNotices ys l.users = r.overallNotices st.issues k.users ∧
      r.personalNotices ys l.personal = r.personalNotices st.issues k.personal := by
  rw [users_eq hp k l, personal_eq hp k l, overallNotices_perm hp, personalNotices_perm hp]
  exact ⟨rfl, rfl⟩

include hm

/-- **The counters are the same.** -/
theorem Course.counters_eq (k : Course st.collaborators r st.issues)
    (l : Course { st with issues := ys }.collaborators r ys) : k.counters = l.counters := by
  have hbatches : k.batches.length = l.batches.length := by
    rw [← k.drafted.length_eq, ← l.drafted.length_eq, length_chunks (by decide),
      length_chunks (by decide), (LeakPeriod.changed_perm hp).length_eq]
  have hchange : total k.changeReach = total l.changeReach := by
    rw [Store.reached_eq k.changesReached, Store.reached_eq l.changesReached]
    simp only [hm]
    rw [total_reachOf_batches, total_reachOf_batches]
    exact total_perm ((batches_perm hp k l).map _)
  obtain ⟨hoverall, hpersonal⟩ := newNotices_eq hp k l
  have hnew : k.newReach = l.newReach := by
    rw [Store.reached_eq k.newReached, Store.reached_eq l.newReached, hoverall]
  have hmine : k.personalReach = l.personalReach := by
    rw [Store.reached_eq k.personalReached, Store.reached_eq l.personalReached, hpersonal]
  unfold Course.counters
  rw [hbatches, hchange, hnew, hmine, hoverall, hpersonal]

end Reordered

/-! ## Two runs -/

/-- Runs that show the same and end in the same way agree. -/
theorem Agree.of_yields {σ : Type} {x y : Traced σ Response} {s s' t t' : σ} {seen : List Event}
    {response : Except Failure Response} (hx : x.Yields s seen response t)
    (hy : y.Yields s' seen response t') : Agree (x s) (y s') where
  result := hx.result.trans hy.result.symm
  reported := by rw [reported_eq, reported_eq, hx.outward, hy.outward]
  lookedUp := by rw [lookedUp_eq, lookedUp_eq, hx.outward, hy.outward]
  newIssues channel := by rw [notices_eq, notices_eq, hx.outward, hy.outward]
  myNewIssues channel := by rw [notices_eq, notices_eq, hx.outward, hy.outward]
  issueChanges channel := by rw [notices_eq, notices_eq, hx.outward, hy.outward]

/-- Among notices of another kind no change notices are found. -/
theorem Course.filter_batches (k : Course c r xs) {kind : NoticeKind} (h : kind ≠ .issueChanges)
    (rest : List Notice) :
    ((k.batches.flatten ++ rest).filter fun n => n.kind == kind) =
      rest.filter fun n => n.kind == kind := by
  have hnone : (k.batches.flatten.filter fun n => n.kind == kind) = [] := by
    rw [List.filter_eq_nil_iff]
    intro n hn he
    rw [k.kind_of_mem_batches n hn] at he
    exact h (beq_iff_eq.mp he).symm
  rw [List.filter_append, hnone, List.nil_append]

/-- **The order of the issues does not matter.** Two runs over a store whose issues are the same up
to order, all rules of changed ones known, end in the same way, report the same counters, look up
the same users, send the same notices of new issues and the same change notices up to order. -/
theorem execute_perm (r : Request) (st : Store) {projectUuid : String}
    {subscriptions : List Subscription}
    (hm : st.messaging = .subscribed projectUuid subscriptions) {issues : List Issue}
    (hp : st.issues.Perm issues)
    (hk : ∀ i ∈ st.issues, r.period.route i = .announced →
      ∃ rule, (Rule.byKey st.rules)[i.ruleKey]? = some rule) (u v : Usage) :
    Agree (execute st.collaborators r u)
      (execute { st with issues := issues }.collaborators r v) := by
  by_cases hs : r.analysis.branch.isSilent
  · exact .of_yields (execute_silent hs u) (execute_silent hs v)
  replace hs : r.analysis.branch.isSilent = false := by simpa using hs
  by_cases hw : st.messaging.hasSubscribers r.analysis.projectUuid NoticeKind.all
  · have hg : ∀ w : Usage, (st.collaborators.hasSubscribers r.analysis.projectUuid NoticeKind.all
        w).1 = .ok true := fun w => congrArg Except.ok hw
    have hknown : ∀ i ∈ r.period.changed st.issues, st.collaborators.Knows i.ruleKey := by
      intro i hi
      obtain ⟨hmem, hroute⟩ := LeakPeriod.mem_changed.mp hi
      exact Store.knows_iff.mpr (hk i hmem hroute)
    obtain ⟨k, s, hy⟩ := execute_yields hs hg (Store.answers st) hknown u
    obtain ⟨l, t, hz⟩ := execute_yields (c := { st with issues := issues }.collaborators) hs hg
      (Store.answers { st with issues := issues })
      (fun i hi => hknown i ((LeakPeriod.changed_perm hp).mem_iff.mpr hi)) v
    have hcounters := Course.counters_eq hm hp k l
    obtain ⟨hoverall, hpersonal⟩ := Course.newNotices_eq hp k l
    have hnew : ∀ kind : NoticeKind, kind ≠ .issueChanges → ∀ channel,
        notices channel kind (execute st.collaborators r u).acts =
          notices channel kind (execute { st with issues := issues }.collaborators r v).acts := by
      intro kind hkind channel
      rw [notices_course k hy, notices_course l hz, k.filter_batches hkind,
        l.filter_batches hkind, hoverall, hpersonal]
    constructor
    · rw [hy.result, hz.result, hcounters]
    · rw [reported_course k hy, reported_course l hz, hcounters]
    · rw [lookedUp_course k hy, lookedUp_course l hz, assignees_perm hp, owners_perm hp]
    · exact hnew .newIssues (by decide)
    · exact hnew .myNewIssues (by decide)
    · intro channel
      rw [notices_course k hy, notices_course l hz, hoverall, hpersonal]
      exact ((Course.batches_perm hp k l).append_right _).filter _
  · have hg : ∀ w : Usage, (st.collaborators.hasSubscribers r.analysis.projectUuid NoticeKind.all
        w).1 = .ok false := fun w => congrArg Except.ok (by simpa using hw)
    exact .of_yields (execute_unwanted hs (hg u))
      (execute_unwanted (c := { st with issues := issues }.collaborators) hs (hg v))

/-- The issues of the small store in either order, with a subscriber to everything. -/
theorem execute_perm_sample :
    Agree
      (execute { sampleStore [⟨"naming", "Naming"⟩] with
        messaging := .subscribed "project" [⟨"ada", .email, NoticeKind.all⟩] }.collaborators
        sampleRequest {})
      (execute { sampleStore [⟨"naming", "Naming"⟩] with
        messaging := .subscribed "project" [⟨"ada", .email, NoticeKind.all⟩],
        issues := sampleIssues.reverse }.collaborators sampleRequest {}) := by
  have hroutes : ∀ i ∈ sampleIssues, sampleRequest.period.route i = .announced →
      i.ruleKey = "naming" := by decide
  refine execute_perm sampleRequest { sampleStore [⟨"naming", "Naming"⟩] with
    messaging := .subscribed "project" [⟨"ada", .email, NoticeKind.all⟩] } rfl
    (List.reverse_perm sampleIssues).symm ?_ {} {}
  intro i hi hr
  rw [hroutes i hi hr]
  exact ⟨⟨"naming", "Naming"⟩, Std.ExtTreeMap.getElem?_insert_self⟩

end Run

end IssueNotice
