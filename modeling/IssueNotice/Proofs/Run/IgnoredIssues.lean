import IssueNotice.Proofs.Run.Deliveries
import IssueNotice.Proofs.Run.IssueOrder
import IssueNotice.Proofs.Run.Twin

/-!
# Ignored issues have no influence

An ignored issue does reach a run: its assignee is looked up together with the others, and the users
found are what later notices are decorated from. Still it shows nowhere else. Over a store, two runs
whose issues differ in ignored ones only make the same calls, but for the first lookup of users and
the message about it (`execute_ignored`).

The argument has two halves. What is announced and counted depends on the noticed issues alone, and
users are found or not found one by one, so that with the larger map of users every notice is
drafted as before: behind the first lookup both runs make the same calls (`sendRest_over`). They
start from stores that were used differently there; `Script.sameCalls` says that this does not
matter as long as the outboxes are equal.
-/

namespace IssueNotice

/-! ## Noticed issues -/

namespace LeakPeriod

variable {p : LeakPeriod} {xs ys : List Issue}

/-- The issues that are not ignored. -/
def noticed (p : LeakPeriod) (issues : List Issue) : List Issue :=
  issues.filter fun i => p.route i != .ignored

theorem changed_noticed (p : LeakPeriod) (issues : List Issue) :
    p.changed (p.noticed issues) = p.changed issues := by
  unfold changed noticed
  rw [List.filter_filter]
  congr 1
  funext i
  cases p.route i <;> rfl

theorem counted_noticed (p : LeakPeriod) (issues : List Issue) :
    p.counted (p.noticed issues) = p.counted issues := by
  unfold counted noticed
  rw [List.filterMap_filter]
  congr 1
  funext i
  cases p.route i <;> rfl

theorem changed_congr (h : p.noticed xs = p.noticed ys) : p.changed xs = p.changed ys := by
  rw [← changed_noticed, h, changed_noticed]

theorem counted_congr (h : p.noticed xs = p.noticed ys) : p.counted xs = p.counted ys := by
  rw [← counted_noticed, h, counted_noticed]

end LeakPeriod

/-- The notice of all new issues depends on the user records of assignees of new issues. -/
theorem Draft.newIssues_congr (d : Draft) (s : Statistics) {users users' : Keyed User}
    (h : ∀ uuid, uuid ∈ (s.distribution .assignee).byValue → users[uuid]? = users'[uuid]?) :
    d.newIssues s users = d.newIssues s users' := by
  unfold newIssues
  simp only [NewIssuesNotice.mk.injEq, true_and]
  congr 1
  apply List.filterMap_congr
  rintro ⟨uuid, count⟩ hmem
  have hcount := Std.ExtTreeMap.mem_toList_iff_getElem?_eq_some.mp hmem
  have hu := h uuid (Std.ExtTreeMap.mem_iff_isSome_getElem?.mpr (by rw [hcount]; rfl))
  simp only [hu]

namespace Run

variable {σ α β : Type}

/-! ## Computations that make the same calls -/

/-- Two outcomes have the same calls and the same result, and their states are related. -/
structure SameCalls (R : σ → σ → Prop) (o p : Outcome σ α) : Prop where
  calls : calls o.acts = calls p.acts
  result : o.result = p.result
  state : R o.state p.state

section SameCalls

variable {R : σ → σ → Prop} {x y : Traced σ α} {s t : σ}

theorem OutcomeAlike.sameCalls {o p : Outcome σ α} (h : OutcomeAlike R o p) : SameCalls R o p :=
  ⟨congrArg _ h.acts, h.result, h.state⟩

theorem SameCalls.trans_eq {o p p' : Outcome σ α} (h : SameCalls R o p) (hp : p = p') :
    SameCalls R o p' :=
  hp ▸ h

theorem SameCalls.bind {f g : α → Traced σ β} (hx : SameCalls R (x s) (y t))
    (hf : ∀ a, (x s).result = .ok a → ∀ s t, R s t → SameCalls R (f a s) (g a t)) :
    SameCalls R ((x >>= f) s) ((y >>= g) t) := by
  cases hr : (x s).result with
  | error e =>
    rw [Traced.bind_of_error hr, Traced.bind_of_error (hx.result ▸ hr)]
    exact ⟨hx.calls, rfl, hx.state⟩
  | ok a =>
    have hp := hf a hr _ _ hx.state
    rw [Traced.bind_of_ok hr, Traced.bind_of_ok (hx.result ▸ hr)]
    refine ⟨?_, hp.result, hp.state⟩
    rw [calls_append, calls_append, hx.calls, hp.calls]

end SameCalls

/-! ## Stores with other issues -/

/-- The collaborators of a store with other issues. -/
abbrev Store.over (st : Store) (issues : List Issue) : Collaborators Usage :=
  { st with issues := issues }.collaborators

/-- The same was delivered. -/
def SameOutbox (u v : Usage) : Prop := u.outbox = v.outbox

variable {st : Store} {xs ys : List Issue} {r : Request}

/-- What a store answers and records does not depend on how its streams and sessions were used. -/
theorem Store.over_alike (st : Store) (xs : List Issue) :
    CollaboratorsAlike SameOutbox (st.over xs) (st.over xs) where
  hasSubscribers _ _ _ _ h := ⟨rfl, h⟩
  openStream _ _ h := ⟨rfl, h⟩
  closeStream _ _ h := h
  openSession _ _ h := ⟨rfl, h⟩
  selectUsers _ _ _ h := ⟨rfl, h⟩
  closeSession _ _ h := h
  findRule _ _ _ h := ⟨rfl, h⟩
  sendBulk _ _ _ h := ⟨rfl, congrArg (· ++ _) h⟩
  sendSingle _ _ _ h := ⟨rfl, congrArg (· ++ _) h⟩

/-- Behind its stream, a part of a run does the same from stores that were used differently. -/
theorem Script.sameCalls {x : Traced Usage α} (h : Script (st.over xs) (st.over xs) false x x)
    {u v : Usage} (hR : SameOutbox u v) : SameCalls SameOutbox (x u) (x v) :=
  (h.twin.alike (Store.over_alike st xs) hR).sameCalls

/-- Reading different issues makes the same calls, if the steps on them do. -/
theorem foldIssues_over {step step' : β → Issue → Traced Usage β} {b : β}
    (h : ∀ u v, SameOutbox u v →
      SameCalls SameOutbox (Traced.fold step b xs u) (Traced.fold step' b ys v))
    {u v : Usage} (hR : SameOutbox u v) :
    SameCalls SameOutbox ((st.over xs).foldIssues step b u)
      ((st.over ys).foldIssues step' b v) := by
  have hsteps := h ((st.over xs).openStream u).2 ((st.over ys).openStream v).2 hR
  obtain ⟨hcalls, hresult, hstate⟩ := foldIssues_answered (c := st.over xs) step b (s := u) rfl
  obtain ⟨hcalls', hresult', hstate'⟩ :=
    foldIssues_answered (c := st.over ys) step' b (s := v) rfl
  refine ⟨?_, ?_, ?_⟩
  · rw [hcalls, hcalls', hsteps.calls]
  · rw [hresult, hresult', hsteps.result]
  · rw [hstate, hstate']
    exact hsteps.state

/-! ## The first lookup -/

/-- The users found for the assignees of some issues. -/
def Store.assigned (st : Store) (issues : List Issue) : Keyed User :=
  User.byUuid (st.select (assignees issues))

/-- The calls of the first lookup of users, and the message about it. -/
def Store.firstLookup (st : Store) (issues : List Issue) : List Event :=
  (if assignees issues = [] then [] else [.openSession, .selectUsers (assignees issues)]) ++
    [.report s!"👤 Resolved {(st.assigned issues).size} assignee(s)"]

/-- What a run does once it knows the assignees. -/
def sendRest (c : Collaborators σ) (r : Request) (users : Keyed User) : Traced σ Counters := do
  let d := r.desk users
  let p ← routeIssues c (.ofAnalysisDate r.analysis.date) d
  if p.rollup.overall.hasOnLeak then do
    let counters ← sendNewIssues c d p.rollup p.counters
    sendMyNewIssues c d p.rollup counters
  else pure p.counters

/-- The assignees are read without a call but that for a stream. -/
theorem assigneeUuids_over (st : Store) (xs : List Issue) (u : Usage) :
    let o := assigneeUuids (st.over xs) u
    calls o.acts = [.openStream] ∧ o.result = .ok (assignees xs) ∧ SameOutbox o.state u := by
  obtain ⟨hcalls, hresult, hstate⟩ := foldIssues_answered (c := st.over xs)
    (fun (uuids : TextSet) i => pure (uuids.insertMany i.assignee.toList)) ∅ (s := u) rfl
  rw [Traced.fold_pure] at hcalls hresult hstate
  intro o
  have ho : o = _ := Traced.bind_of_ok hresult _
  have houtbox := congrArg Usage.outbox hstate
  rw [ho]
  refine ⟨?_, rfl, houtbox⟩
  rw [calls_append, hcalls]
  rfl

theorem resolveUsers_over (st : Store) (xs : List Issue) (uuids : List String) (u : Usage) :
    let o := (st.over xs).resolveUsers uuids u
    calls o.acts = (if uuids = [] then [] else [.openSession, .selectUsers uuids]) ∧
      o.result = .ok (User.byUuid (st.select uuids)) ∧ SameOutbox o.state u := by
  unfold Collaborators.resolveUsers
  cases uuids with
  | nil => exact ⟨rfl, rfl, rfl⟩
  | cons uuid rest => exact ⟨rfl, rfl, rfl⟩

/-- Up to the first lookup of users a run asks for a stream, and for nothing else. -/
theorem sendAll_over (st : Store) (xs : List Issue) (r : Request) (u : Usage) :
    ∃ v, SameOutbox v u ∧
      let o := sendAll (st.over xs) r u
      let p := sendRest (st.over xs) r (st.assigned xs) v
      calls o.acts = .openStream :: (st.firstLookup xs ++ calls p.acts) ∧ o.result = p.result ∧
        o.state = p.state := by
  obtain ⟨hcalls, hresult, hstate⟩ := assigneeUuids_over st xs u
  obtain ⟨hcalls', hresult', hstate'⟩ := resolveUsers_over st xs (assignees xs)
    (assigneeUuids (st.over xs) u).state
  refine ⟨_, hstate'.trans hstate, ?_⟩
  let users := st.assigned xs
  let rest (users : Keyed User) : Traced Usage Counters := do
    .note (.report s!"👤 Resolved {users.size} assignee(s)")
    sendRest (st.over xs) r users
  have h₁ := Traced.bind_of_ok hresult fun uuids => (st.over xs).resolveUsers uuids >>= rest
  have h₂ := Traced.bind_of_ok hresult' rest
  intro o p
  have ho : o = _ := h₁
  rw [h₂] at ho
  have hp : rest users _ = ⟨.event (.report s!"👤 Resolved {users.size} assignee(s)") :: p.acts,
    p.result, p.state⟩ := rfl
  rw [ho]
  refine ⟨?_, rfl, rfl⟩
  change calls (_ ++ (_ ++ .event (.report _) :: p.acts)) = _
  rw [calls_append, calls_append, hcalls, hcalls', Store.firstLookup, List.append_assoc]
  rfl

/-! ## Behind the first lookup -/

/-- With users who differ in no assignee of an issue, its notice is drafted the same. -/
theorem Request.change_congr (r : Request) {users users' : Keyed User} {i : Issue}
    (h : ∀ uuid, i.assignee = some uuid → users[uuid]? = users'[uuid]?) :
    (r.desk users).change i = (r.desk users').change i := by
  have hu : (i.assignee.bind fun uuid => users[uuid]?) =
      i.assignee.bind fun uuid => users'[uuid]? := by
    cases ha : i.assignee with
    | none => rfl
    | some uuid => exact h uuid ha
  funext rule
  unfold Desk.change
  simp only [Request.desk, hu]

theorem announceChunks_congr (c : Collaborators σ) {d d' : Desk} (ht : d.tree = d'.tree)
    {chunked : List (List Issue)} (h : ∀ chunk ∈ chunked, ∀ i ∈ chunk, d.change i = d'.change i)
    (q : Counters × Nat) : announceChunks c d q chunked = announceChunks c d' q chunked := by
  refine Traced.fold_congr (fun q chunk hchunk => ?_) q
  have hdraft : draftAll c d chunk = draftAll c d' chunk :=
    Traced.each_congr fun i hi => by rw [draftChange, draftChange, h chunk hchunk i hi, ht]
  unfold announceChunk
  rw [hdraft]

/-- To announce changed issues the stream of issues is not needed. -/
theorem announceChunks_over (st : Store) (xs ys : List Issue) (d : Desk) :
    announceChunks (st.over xs) d = announceChunks (st.over ys) d :=
  rfl

/-- What the issues leave behind, once they were read and the full chunks announced. -/
theorem exists_of_foldIssues_ok {c : Collaborators σ} {issues : List Issue} {s : σ}
    (hs : (c.openStream s).1 = .ok (issues.map .ok)) {period : LeakPeriod} {d : Desk}
    {p : Progress d.tree} (h : (c.foldIssues (routeIssue c period d) {} s).result = .ok p) :
    ∃ q, p = (({} : Progress d.tree).routed period issues).after q := by
  obtain ⟨-, hresult, -⟩ := foldIssues_answered (routeIssue c period d) {} hs
  rw [hresult, fold_routeIssue_start] at h
  obtain ⟨q, -, hq⟩ := Traced.exists_of_bind_ok h
  exact ⟨q, (Except.ok.inj hq).symm⟩

theorem rollup_of_routeIssues {c : Collaborators σ} {issues : List Issue} {s : σ}
    (hs : (c.openStream s).1 = .ok (issues.map .ok)) {period : LeakPeriod} {d : Desk}
    {p : Progress d.tree} (h : (routeIssues c period d s).result = .ok p) :
    p.rollup = ({} : Rollup).addAll (period.counted issues) := by
  rw [routeIssues_eq] at h
  obtain ⟨p', hp', h⟩ := Traced.exists_of_bind_ok h
  obtain ⟨q, rfl⟩ := exists_of_foldIssues_ok hs hp'
  obtain ⟨q', -, h⟩ := Traced.exists_of_bind_ok h
  rw [← Except.ok.inj h]
  rfl

/-- The same steps are taken over issues that differ in ignored ones, if their chunks are announced
in the same way. -/
theorem fold_routeIssue_congr {c c' : Collaborators σ} {draft : Draft} {t : ComponentTree}
    {users users' : Keyed User} {period : LeakPeriod} (h : period.noticed xs = period.noticed ys)
    (hchunks : ∀ q, announceChunks c ⟨draft, t, users⟩ q
        (fullChunks changeBatchSize (period.changed xs)) =
      announceChunks c' ⟨draft, t, users'⟩ q (fullChunks changeBatchSize (period.changed xs))) :
    Traced.fold (routeIssue c period ⟨draft, t, users⟩) ({} : Progress t) xs =
      Traced.fold (routeIssue c' period ⟨draft, t, users'⟩) ({} : Progress t) ys := by
  have hrouted : ({} : Progress t).routed period xs = ({} : Progress t).routed period ys := by
    rw [Progress.routed, Progress.routed, LeakPeriod.changed_congr h, LeakPeriod.counted_congr h]
  have hx := fold_routeIssue_start (c := c) (d := ⟨draft, t, users⟩) period xs
  have hy := fold_routeIssue_start (c := c') (d := ⟨draft, t, users'⟩) period ys
  rw [hchunks, LeakPeriod.changed_congr h] at hx
  refine hx.trans (Eq.trans (bind_congr fun q => ?_) hy.symm)
  exact congrArg (fun p : Progress t => pure (p.after q)) hrouted

section Noticed

variable (h : r.period.noticed xs = r.period.noticed ys)

/-- For the assignee of an issue of both runs the same user record is found. -/
theorem assigned_eq {i : Issue} (hx : i ∈ xs) (hy : i ∈ ys) {uuid : String}
    (ha : i.assignee = some uuid) : (st.assigned xs)[uuid]? = (st.assigned ys)[uuid]? := by
  unfold Store.assigned
  rw [Store.getElem?_select (mem_assignees.mpr ⟨i, hx, ha⟩),
    Store.getElem?_select (mem_assignees.mpr ⟨i, hy, ha⟩)]

include h

/-- The notices of changed issues are drafted the same. -/
theorem change_eq {i : Issue} (hi : i ∈ r.period.changed xs) :
    (r.desk (st.assigned xs)).change i = (r.desk (st.assigned ys)).change i := by
  have hx := (LeakPeriod.mem_changed.mp hi).1
  rw [LeakPeriod.changed_congr h] at hi
  have hy := (LeakPeriod.mem_changed.mp hi).1
  exact r.change_congr fun uuid ha => assigned_eq hx hy ha

/-- The notice of all new issues is drafted the same. -/
theorem newIssues_eq (draft : Draft) :
    draft.newIssues (r.rollup xs).overall (st.assigned xs) =
      draft.newIssues (r.rollup xs).overall (st.assigned ys) := by
  refine draft.newIssues_congr _ fun uuid hmem => ?_
  rw [Request.rollup, Rollup.overall_addAll] at hmem
  rcases Statistics.mem_distribution_addAll.mp hmem with hmem | ⟨⟨i, onLeak⟩, hi, ha⟩
  · exact absurd hmem Std.ExtTreeMap.not_mem_empty
  · have hx := (LeakPeriod.mem_counted.mp hi).1
    rw [Request.counted, LeakPeriod.counted_congr h] at hi
    have hy := (LeakPeriod.mem_counted.mp hi).1
    exact assigned_eq hx hy (Option.mem_toList.mp ha)

/-- **Routing does the same with ignored issues and without them.** -/
theorem routeIssues_over {u v : Usage} (hR : SameOutbox u v) :
    SameCalls SameOutbox
      (routeIssues (st.over xs) r.period (r.desk (st.assigned xs)) u)
      (routeIssues (st.over ys) r.period (r.desk (st.assigned ys)) v) := by
  have hchunks : ∀ q (chunked : List (List Issue)),
      (∀ chunk ∈ chunked, ∀ i ∈ chunk, i ∈ r.period.changed xs) →
      announceChunks (st.over xs) (r.desk (st.assigned xs)) q chunked =
        announceChunks (st.over ys) (r.desk (st.assigned ys)) q chunked := by
    intro q chunked hmem
    have hchange : ∀ chunk ∈ chunked, ∀ i ∈ chunk,
        (r.desk (st.assigned xs)).change i = (r.desk (st.assigned ys)).change i :=
      fun chunk hc i hi => change_eq h (hmem chunk hc i hi)
    rw [announceChunks_over st xs ys]
    exact announceChunks_congr (st.over ys) (by rfl) hchange q
  have hfull : ∀ chunk ∈ fullChunks changeBatchSize (r.period.changed xs), ∀ i ∈ chunk,
      i ∈ r.period.changed xs := fun chunk hc i hi =>
    mem_of_mem_chunks (List.mem_append_left _ hc) hi
  let draft : Draft := ⟨r.analysis, r.tree.project⟩
  have hfold :
      Traced.fold (routeIssue (st.over xs) r.period ⟨draft, r.tree, st.assigned xs⟩) {} xs =
        Traced.fold (routeIssue (st.over ys) r.period ⟨draft, r.tree, st.assigned ys⟩) {} ys :=
    fold_routeIssue_congr h fun q => hchunks q _ hfull
  rw [routeIssues_eq, routeIssues_eq]
  refine (foldIssues_over (fun u v hR => ?_) hR).bind fun p hp u v hR => ?_
  · have hread := (Script.fold (routeIssue_script (st.over xs) (st.over xs) r.period
      (r.desk (st.assigned xs))) {} xs).sameCalls hR
    exact hread.trans_eq (congrFun hfold v)
  · -- what is left in the batch are the changed issues behind the full chunks
    obtain ⟨q, hq⟩ := exists_of_foldIssues_ok rfl hp
    have hlast : ∀ chunk ∈ lastChunk p.batch.items.toList, ∀ i ∈ chunk,
        i ∈ r.period.changed xs := by
      rw [hq]
      exact fun chunk hc i hi => mem_of_mem_chunks (List.mem_append_right _ hc) hi
    rw [← hchunks _ _ hlast]
    exact ((announceChunks_script _ _ _ _ _).bind fun q => .pure _).sameCalls hR

/-- **Behind the first lookup of users, ignored issues make no difference.** -/
theorem sendRest_over (st : Store) {u v : Usage} (hR : SameOutbox u v) :
    SameCalls SameOutbox (sendRest (st.over xs) r (st.assigned xs) u)
      (sendRest (st.over ys) r (st.assigned ys) v) := by
  refine (routeIssues_over h hR).bind fun p hp u v hR => ?_
  have hrollup : p.rollup = r.rollup xs := rollup_of_routeIssues rfl hp
  rw [hrollup]
  by_cases hl : (r.rollup xs).overall.hasOnLeak
  · have hdraft : (r.desk (st.assigned xs)).draft.newIssues (r.rollup xs).overall
        (r.desk (st.assigned xs)).users = (r.desk (st.assigned ys)).draft.newIssues
          (r.rollup xs).overall (r.desk (st.assigned ys)).users := newIssues_eq h _
    have hnew : sendNewIssues (st.over xs) (r.desk (st.assigned xs)) (r.rollup xs) p.counters =
        sendNewIssues (st.over ys) (r.desk (st.assigned ys)) (r.rollup xs) p.counters := by
      unfold sendNewIssues
      rw [hdraft]
      rfl
    simp only [if_pos hl]
    rw [hnew]
    exact ((sendNewIssues_script (st.over ys) (st.over ys) _ _ _).bind fun counters =>
      sendMyNewIssues_script _ _ _ _ counters).sameCalls hR
  · simp only [if_neg hl]
    exact ⟨rfl, rfl, hR⟩

/-- With subscribers, the calls of two runs differ in the first lookup at most. -/
theorem sendAll_ignored (st : Store) (u : Usage) :
    let o := sendAll (st.over xs) r u
    let p := sendAll (st.over ys) r u
    o.result = p.result ∧ SameOutbox o.state p.state ∧ ∃ back,
      calls o.acts = .openStream :: (st.firstLookup xs ++ back) ∧
        calls p.acts = .openStream :: (st.firstLookup ys ++ back) := by
  obtain ⟨v, hv, hcalls, hresult, hstate⟩ := sendAll_over st xs r u
  obtain ⟨w, hw, hcalls', hresult', hstate'⟩ := sendAll_over st ys r u
  have hrest := sendRest_over h st (hv.trans hw.symm)
  refine ⟨?_, ?_, _, hcalls, ?_⟩
  · rw [hresult, hresult', hrest.result]
  · rw [hstate, hstate']
    exact hrest.state
  · rw [hcalls', hrest.calls]

end Noticed

/-! ## Two runs -/

/-- What two runs have in common whose issues differ in ignored ones only. -/
structure SameNotices (st : Store) (r : Request) (xs ys : List Issue)
    (o p : Outcome Usage Response) : Prop where
  /-- The response, or the failure. -/
  result : o.result = p.result
  reported : reported o.acts = reported p.acts
  /-- The notices handed to both channels, batch by batch. -/
  sendings : sendings o.acts = sendings p.acts
  outbox : o.state.outbox = p.state.outbox
  /-- All calls are the same, but those of the first lookup and the message about it. -/
  calls : calls o.acts = calls p.acts ∨ ∃ back,
    calls o.acts = .askSubscribers r.analysis.projectUuid NoticeKind.all :: .openStream ::
      (st.firstLookup xs ++ back) ∧
    calls p.acts = .askSubscribers r.analysis.projectUuid NoticeKind.all :: .openStream ::
      (st.firstLookup ys ++ back)

theorem sendings_eq_calls (acts : List Act) :
    sendings acts = (calls acts).filter Event.isSending := by
  rw [sendings, calls, List.filter_filter]
  congr 1
  funext e
  cases e <;> rfl

theorem reported_eq_calls (acts : List Act) : reported acts = (calls acts).flatMap counter := by
  refine (flatMap_filter (fun e he => ?_) _).symm
  cases e <;> first | rfl | exact absurd he (by simp [Event.isRelease])

/-- The first lookup neither sends nor counts anything. -/
theorem Store.firstLookup_quiet (st : Store) (issues : List Issue) :
    (st.firstLookup issues).filter Event.isSending = [] ∧
      (st.firstLookup issues).flatMap counter = [] := by
  unfold Store.firstLookup
  split <;> exact ⟨rfl, rfl⟩

theorem SameNotices.of_calls {o p : Outcome Usage Response} (hresult : o.result = p.result)
    (houtbox : o.state.outbox = p.state.outbox) (hcalls : Run.calls o.acts = Run.calls p.acts) :
    SameNotices st r xs ys o p where
  result := hresult
  reported := by rw [reported_eq_calls, reported_eq_calls, hcalls]
  sendings := by rw [sendings_eq_calls, sendings_eq_calls, hcalls]
  outbox := houtbox
  calls := .inl hcalls

theorem SameNotices.of_lookup {o p : Outcome Usage Response} (hresult : o.result = p.result)
    (houtbox : o.state.outbox = p.state.outbox) {back : List Event}
    (hx : Run.calls o.acts = .askSubscribers r.analysis.projectUuid NoticeKind.all ::
      .openStream :: (st.firstLookup xs ++ back))
    (hy : Run.calls p.acts = .askSubscribers r.analysis.projectUuid NoticeKind.all ::
      .openStream :: (st.firstLookup ys ++ back)) :
    SameNotices st r xs ys o p := by
  obtain ⟨hsend, hcount⟩ := st.firstLookup_quiet xs
  obtain ⟨hsend', hcount'⟩ := st.firstLookup_quiet ys
  refine ⟨hresult, ?_, ?_, houtbox, .inr ⟨back, hx, hy⟩⟩
  · rw [reported_eq_calls, reported_eq_calls, hx, hy]
    simp only [List.flatMap_cons, List.flatMap_append, hcount, hcount']
  · rw [sendings_eq_calls, sendings_eq_calls, hx, hy]
    simp only [List.filter_cons, List.filter_append, hsend, hsend']

/-- **Ignored issues have no influence.** Two runs over a store whose issues differ in ignored ones
only, in whatever number and at whatever places, end in the same way, report the same counters and
hand over and deliver the same. They make the same calls, but for the first lookup of users and the
message about it. -/
theorem execute_ignored (st : Store) (r : Request) {xs ys : List Issue}
    (h : r.period.noticed xs = r.period.noticed ys) (u : Usage) :
    SameNotices st r xs ys (execute { st with issues := xs }.collaborators r u)
      (execute { st with issues := ys }.collaborators r u) := by
  by_cases hs : r.analysis.branch.isSilent
  · rw [execute_eq_skip _ hs, execute_eq_skip _ hs]
    exact .of_calls rfl rfl rfl
  replace hs : r.analysis.branch.isSilent = false := by simpa using hs
  rw [execute_eq_finish _ hs, execute_eq_finish _ hs]
  have hask : ∀ zs, ((st.over zs).hasSubscribers r.analysis.projectUuid NoticeKind.all u).1 =
      .ok (st.messaging.hasSubscribers r.analysis.projectUuid NoticeKind.all) := fun _ => rfl
  cases hw : st.messaging.hasSubscribers r.analysis.projectUuid NoticeKind.all with
  | false =>
    simp only [hw] at hask
    rw [finish_apply, finish_apply, sendIfWanted_of_false (hask xs),
      sendIfWanted_of_false (hask ys)]
    exact .of_calls rfl rfl rfl
  | true =>
    simp only [hw] at hask
    obtain ⟨hresult, houtbox, back, hx, hy⟩ := sendAll_ignored h st u
    have hparts : ∀ zs, sendIfWanted (st.over zs) r u =
        ⟨.event (.askSubscribers r.analysis.projectUuid NoticeKind.all) ::
          (sendAll (st.over zs) r u).acts, (sendAll (st.over zs) r u).result.map (.mk .completed),
          (sendAll (st.over zs) r u).state⟩ := fun zs => sendIfWanted_of_true (hask zs)
    rw [finish_apply, finish_apply, hparts, hparts, hresult]
    have hcalls : ∀ zs acts more, calls acts = .openStream :: (st.firstLookup zs ++ back) →
        calls (.event (.askSubscribers r.analysis.projectUuid NoticeKind.all) :: acts ++ more) =
          .askSubscribers r.analysis.projectUuid NoticeKind.all :: .openStream ::
            (st.firstLookup zs ++ (back ++ calls more)) := by
      intro zs acts more hz
      rw [calls_append, ← List.append_assoc]
      exact congrArg (.askSubscribers r.analysis.projectUuid NoticeKind.all :: · ++ calls more) hz
    exact .of_lookup rfl houtbox (hcalls xs _ _ hx) (hcalls ys _ _ hy)

/-- The small store with an unreviewed hotspot in between, raised by an unknown rule and assigned to
somebody else. -/
theorem execute_ignored_sample :
    let hotspot : Issue :=
      { key := "hotspot", ruleKey := "injection", type := .securityHotspot, component := "app",
        created := sampleDate 0, assignee := some "bob", isNew := true, change := .notifiable }
    SameNotices (sampleStore [⟨"naming", "Naming"⟩]) sampleRequest sampleIssues
      (sampleIssues.insertIdx 1 hotspot)
      (execute { sampleStore [⟨"naming", "Naming"⟩] with
        issues := sampleIssues }.collaborators sampleRequest {})
      (execute { sampleStore [⟨"naming", "Naming"⟩] with
        issues := sampleIssues.insertIdx 1 hotspot }.collaborators sampleRequest {}) := by
  intro hotspot
  exact execute_ignored (sampleStore [⟨"naming", "Naming"⟩]) sampleRequest (by decide) {}

end Run

end IssueNotice
