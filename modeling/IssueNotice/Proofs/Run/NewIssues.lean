import IssueNotice.Proofs.Run.Agenda
import IssueNotice.Proofs.Statistics.Summary

/-!
# The project and its assignees are told the same

A completed run with a new issue on the leak period sends one notice about all new issues, and one
to each assignee about their own. `SameStory` says what both are told and that it agrees:
the numbers are those of the issues, the names those of the last user rows, and the personal numbers
add up to those of the project but for the issues that nobody is assigned to.

The names come from two lookups of users, for the assignees of all issues and for the owners, and
the numbers from two sets of statistics. Both lookups find the last row of a uuid
(`Store.getElem?_select`), and the issues of the owners and the unassigned ones are all issues on
the leak period (`perm_ofAssignee`).
-/

namespace IssueNotice

/-! ## Names -/

/-- A map of some keys with a value is found to hold just these. -/
theorem Keyed.getElem?_ofKeys {β : Type} (f : String → Option β) (keys : List String)
    (k : String) :
    (Keyed.ofEntries (keys.filterMap fun key => (f key).map fun b => (key, b)))[k]? =
      if k ∈ keys then f k else none := by
  let entries := keys.filterMap fun key => (f key).map fun b => (key, b)
  have hmem : ∀ e, e ∈ entries.filter (fun e => e.1 == k) ↔
      k ∈ keys ∧ f k = some e.2 ∧ e.1 = k := by
    rintro ⟨k', b⟩
    simp only [entries, List.mem_filter, List.mem_filterMap, Option.map_eq_some_iff,
      Prod.mk.injEq, beq_iff_eq]
    constructor
    · rintro ⟨⟨key, hkey, b', hb, rfl, rfl⟩, rfl⟩
      exact ⟨hkey, hb, rfl⟩
    · rintro ⟨hk, hb, rfl⟩
      exact ⟨⟨k', hk, b, hb, rfl, rfl⟩, rfl⟩
  rw [Keyed.getElem?_ofEntries]
  cases he : (entries.filter fun e => e.1 == k).getLast? with
  | some e =>
    obtain ⟨hk, hb, -⟩ := (hmem e).mp (List.mem_of_getLast? he)
    rw [if_pos hk, hb]
    rfl
  | none =>
    rw [List.getLast?_eq_none_iff] at he
    split
    · next hk =>
      refine (Option.eq_none_iff_forall_ne_some.mpr fun b hb => ?_).symm
      have := (hmem (k, b)).mpr ⟨hk, hb, rfl⟩
      rw [he] at this
      exact absurd this List.not_mem_nil
    · rfl

/-- The named assignees are the values counted under that metric for which there is a user. -/
theorem Draft.getElem?_assigneeNames (d : Draft) (s : Statistics) (users : Keyed User)
    (uuid : String) : (d.newIssues s users).assigneeNames[uuid]? =
      if uuid ∈ (s.distribution .assignee).byValue then users[uuid]?.map User.displayName
      else none := by
  have hkeys : (s.distribution .assignee).toList.filterMap (fun entry =>
      users[entry.1]?.map fun u => (entry.1, u.displayName)) =
      ((s.distribution .assignee).toList.map Prod.fst).filterMap fun uuid =>
        (users[uuid]?.map User.displayName).map fun name => (uuid, name) := by
    rw [List.filterMap_map]
    congr 1
    funext entry
    rw [Function.comp_apply, Option.map_map]
    rfl
  have hnames : (d.newIssues s users).assigneeNames = _ := congrArg Keyed.ofEntries hkeys
  rw [hnames, Keyed.getElem?_ofKeys]
  simp only [Distribution.toList, Keyed.mem_keys]

namespace Run

/-! ## The new issues of an analysis -/

/-- The new issues that an analysis counts, created since it, cut to the second, or before that. An
issue is counted if the analysis introduced it, it is not resolved and no hotspot. -/
def Request.newIssues (r : Request) (issues : List Issue) (onLeak : Bool) : List Issue :=
  issues.filter fun i => !i.isHotspot && i.isNewUnresolved &&
    (decide (r.analysis.date.truncate ≤ i.created) == onLeak)

section Counted

variable {r : Request} {issues : List Issue}

theorem route_eq_counted {i : Issue} {onLeak : Bool} : r.period.route i = .counted onLeak ↔
    (!i.isHotspot && i.isNewUnresolved &&
      (decide (r.analysis.date.truncate ≤ i.created) == onLeak)) = true := by
  have hcontains : r.period.contains i.created =
      decide (r.analysis.date.truncate ≤ i.created) := rfl
  unfold LeakPeriod.route
  rw [hcontains]
  split_ifs <;> simp_all

theorem noticed_of_counted {i : Issue} {onLeak : Bool} (h : r.period.route i = .counted onLeak) :
    i.isHotspot = false ∧ i.isNewUnresolved = true := by
  have hcounted := route_eq_counted.mp h
  simp only [Bool.and_eq_true, Bool.not_eq_true'] at hcounted
  exact hcounted.1

/-- The counted issues of one side are those routed there. -/
theorem onSide_counted (onLeak : Bool) :
    onSide onLeak (r.counted issues) = r.newIssues issues onLeak := by
  have hrouted : r.newIssues issues onLeak =
      issues.filter fun i => r.period.route i == .counted onLeak := by
    refine List.filter_congr fun i _ => ?_
    rw [Bool.eq_iff_iff, beq_iff_eq, route_eq_counted]
  rw [hrouted, Request.counted]
  clear hrouted
  induction issues with
  | nil => rfl
  | cons i rest ih =>
    cases hr : r.period.route i with
    | counted b =>
      rw [LeakPeriod.counted_cons_of_counted hr, onSide_cons, ih, List.filter_cons, hr]
      simp
    | ignored | announced =>
      rw [LeakPeriod.counted_cons_of_ne (by simp [hr]), ih, List.filter_cons, hr]
      rfl

/-- The statistics of all new issues summarise them. -/
theorem summarises_overall : (r.rollup issues).overall.Summarises (r.newIssues issues true)
    (r.newIssues issues false) := by
  rw [Request.rollup, Rollup.overall_addAll, ← onSide_counted, ← onSide_counted]
  exact Statistics.summarises_addAll _

/-- The statistics of one assignee summarise their own new issues. -/
theorem summarises_own (uuid : String) :
    (({} : Statistics).addAll (ownIssues uuid (r.counted issues))).Summarises
      (ofAssignee uuid (r.newIssues issues true)) (ofAssignee uuid (r.newIssues issues false)) := by
  rw [← onSide_counted, ← onSide_counted, ← onSide_ownIssues, ← onSide_ownIssues]
  exact Statistics.summarises_addAll _

/-- The values counted under the assignee metric. -/
theorem mem_assignee_distribution {uuid : String} :
    uuid ∈ ((r.rollup issues).overall.distribution .assignee).byValue ↔
      ∃ i ∈ issues, i.isHotspot = false ∧ i.isNewUnresolved = true ∧ i.assignee = some uuid := by
  rw [Request.rollup, Rollup.overall_addAll]
  refine Statistics.mem_byValue_addAll.trans ?_
  constructor
  · rintro ⟨⟨i, onLeak⟩, hp, hv⟩
    obtain ⟨hi, hr⟩ := LeakPeriod.mem_counted.mp hp
    obtain ⟨hhotspot, hnew⟩ := noticed_of_counted hr
    exact ⟨i, hi, hhotspot, hnew, Option.mem_toList.mp hv⟩
  · rintro ⟨i, hi, hh, hn, ha⟩
    have hr : r.period.route i =
        .counted (decide (r.analysis.date.truncate ≤ i.created)) :=
      route_eq_counted.mpr (by simp [hh, hn])
    exact ⟨(i, _), LeakPeriod.mem_counted.mpr ⟨hi, hr⟩, Option.mem_toList.mpr ha⟩

end Counted

/-! ## The story -/

/-- The notice of all new issues and the personal ones tell the same story, the one of the store. -/
structure SameStory (st : Store) (r : Request) (g : NewIssuesNotice)
    (personal : List MyNewIssuesNotice) : Prop where
  /-- The project is told of all new issues. -/
  overall : g.statistics.Summarises (r.newIssues st.issues true) (r.newIssues st.issues false)
  count : g.statistics.countOnLeak = (r.newIssues st.issues true).length
  debt : g.debt = totalEffort (r.newIssues st.issues true)
  /-- Named are the assignees of new issues who have a user row, as their last row has it. -/
  names : ∀ uuid, g.assigneeNames[uuid]? =
    if ∃ i ∈ st.issues, i.isHotspot = false ∧ i.isNewUnresolved = true ∧ i.assignee = some uuid then
      (st.users.filter fun u => u.uuid == uuid).getLast?.map User.displayName
    else none
  /-- The assignees of issues on the leak period are told, in order and each once. -/
  ordered : (personal.map fun n => n.assigneeUuid).Pairwise (· < ·)
  told : ∀ uuid, uuid ∈ personal.map (fun n => n.assigneeUuid) ↔
    ∃ i ∈ r.newIssues st.issues true, i.assignee = some uuid
  /-- They are told of their own new issues. -/
  own : ∀ n ∈ personal, n.statistics.Summarises
    (ofAssignee n.assigneeUuid (r.newIssues st.issues true))
    (ofAssignee n.assigneeUuid (r.newIssues st.issues false))
  ownDebt : ∀ n ∈ personal,
    n.debt = totalEffort (ofAssignee n.assigneeUuid (r.newIssues st.issues true))
  /-- There is a record of an assignee iff the project is told their name. -/
  known : ∀ n ∈ personal, n.assignee.isSome = true ↔ n.assigneeUuid ∈ g.assigneeNames
  sameName : ∀ n ∈ personal, n.assignee.map User.displayName = g.assigneeNames[n.assigneeUuid]?
  /-- The personal numbers and those of the unassigned issues add up. -/
  counts : total (personal.map fun n => n.statistics.countOnLeak) +
    (unassigned (r.newIssues st.issues true)).length = g.statistics.countOnLeak
  debts : total (personal.map fun n => n.debt) +
    totalEffort (unassigned (r.newIssues st.issues true)) = g.debt

section Story

variable {st : Store} {r : Request}

/-- The contents of the notice of all new issues. -/
def Store.overallContent (st : Store) (r : Request) : NewIssuesNotice :=
  (r.desk (st.assigned st.issues)).draft.newIssues (r.rollup st.issues).overall
    (st.assigned st.issues)

/-- The contents of the notice of one owner. -/
def Store.personalContent (st : Store) (r : Request) (uuid : String) : MyNewIssuesNotice :=
  let users := User.byUuid (st.select (r.owners st.issues))
  (r.desk users).draft.myNewIssues uuid
    (({} : Statistics).addAll (ownIssues uuid (r.counted st.issues))) users[uuid]?

theorem mem_owners_newIssues {uuid : String} : uuid ∈ r.owners st.issues ↔
    ∃ i ∈ r.newIssues st.issues true, i.assignee = some uuid := by
  rw [mem_owners]
  simp only [Request.newIssues, List.mem_filter, ← route_eq_counted, and_assoc]

theorem getElem?_overallContent_assigneeNames (uuid : String) :
    (st.overallContent r).assigneeNames[uuid]? =
      if ∃ i ∈ st.issues, i.isHotspot = false ∧ i.isNewUnresolved = true ∧
          i.assignee = some uuid then
        (st.users.filter fun u => u.uuid == uuid).getLast?.map User.displayName
      else none := by
  unfold Store.overallContent
  rw [Draft.getElem?_assigneeNames]
  by_cases h : ∃ i ∈ st.issues, i.isHotspot = false ∧ i.isNewUnresolved = true ∧
    i.assignee = some uuid
  · rw [if_pos (mem_assignee_distribution.mpr h), if_pos h]
    obtain ⟨i, hi, -, -, ha⟩ := h
    rw [Store.getElem?_assigned hi ha]
  · rw [if_neg fun hm => h (mem_assignee_distribution.mp hm), if_neg h]

/-- The record of an owner has the name that the project is told. -/
theorem map_displayName_personalContent {uuid : String} (h : uuid ∈ r.owners st.issues) :
    (st.personalContent r uuid).assignee.map User.displayName =
      (st.overallContent r).assigneeNames[uuid]? := by
  have hrow : (st.personalContent r uuid).assignee =
      (st.users.filter fun u => u.uuid == uuid).getLast? :=
    (Store.getElem?_select h).trans (User.getElem?_byUuid _ _)
  obtain ⟨i, hi, hr, ha⟩ := mem_owners.mp h
  obtain ⟨hhotspot, hnew⟩ := noticed_of_counted hr
  rw [getElem?_overallContent_assigneeNames, hrow, if_pos ⟨i, hi, hhotspot, hnew, ha⟩]

theorem summarises_overallContent : (st.overallContent r).statistics.Summarises
    (r.newIssues st.issues true) (r.newIssues st.issues false) := summarises_overall

theorem debt_overallContent :
    (st.overallContent r).debt = totalEffort (r.newIssues st.issues true) :=
  congrArg LeakCount.onLeak summarises_overallContent.effort

theorem summarises_personalContent (uuid : String) :
    (st.personalContent r uuid).statistics.Summarises
      (ofAssignee uuid (r.newIssues st.issues true))
      (ofAssignee uuid (r.newIssues st.issues false)) := summarises_own uuid

theorem debt_personalContent (uuid : String) : (st.personalContent r uuid).debt =
    totalEffort (ofAssignee uuid (r.newIssues st.issues true)) :=
  congrArg LeakCount.onLeak (summarises_personalContent uuid).effort

/-- Sums over the issues of each owner and the unassigned ones add up to one over all of them. -/
theorem total_owners (share : Issue → Nat) :
    total ((r.owners st.issues).map fun uuid =>
        total ((ofAssignee uuid (r.newIssues st.issues true)).map share)) +
      total ((unassigned (r.newIssues st.issues true)).map share) =
        total ((r.newIssues st.issues true).map share) :=
  total_ofAssignee (nodup_of_ordered (Rollup.ordered_owners _))
    (fun i hi _ ha => mem_owners_newIssues.mpr ⟨i, hi, ha⟩) share

theorem total_countOnLeak : total ((r.owners st.issues).map fun uuid =>
      (st.personalContent r uuid).statistics.countOnLeak) +
    (unassigned (r.newIssues st.issues true)).length =
      (st.overallContent r).statistics.countOnLeak := by
  have hcounts : ((r.owners st.issues).map fun uuid =>
      (st.personalContent r uuid).statistics.countOnLeak) =
        (r.owners st.issues).map fun uuid =>
          total ((ofAssignee uuid (r.newIssues st.issues true)).map fun _ => 1) := by
    refine List.map_congr_left fun uuid _ => ?_
    rw [total_map_one, (summarises_personalContent uuid).countOnLeak]
  rw [hcounts, ← total_map_one (unassigned _), total_owners, total_map_one,
    summarises_overallContent.countOnLeak]

theorem total_debt : total ((r.owners st.issues).map fun uuid =>
      (st.personalContent r uuid).debt) +
    totalEffort (unassigned (r.newIssues st.issues true)) = (st.overallContent r).debt := by
  simp only [debt_personalContent, debt_overallContent]
  exact total_owners _

/-- **The notice of all new issues and those of the owners tell the same story.** -/
theorem sameStory (st : Store) (r : Request) :
    SameStory st r (st.overallContent r) ((r.owners st.issues).map (st.personalContent r)) := by
  have huuids : ((r.owners st.issues).map (st.personalContent r)).map (fun n => n.assigneeUuid) =
      r.owners st.issues := by
    rw [List.map_map]
    exact List.map_id _
  have hnames : ∀ n ∈ (r.owners st.issues).map (st.personalContent r),
      n.assignee.map User.displayName = (st.overallContent r).assigneeNames[n.assigneeUuid]? :=
    List.forall_mem_map.mpr fun _ hu => map_displayName_personalContent hu
  exact {
    overall := summarises_overallContent
    count := summarises_overallContent.countOnLeak
    debt := debt_overallContent
    names := getElem?_overallContent_assigneeNames
    ordered := huuids.symm ▸ Rollup.ordered_owners _
    told := fun uuid => huuids.symm ▸ mem_owners_newIssues
    own := List.forall_mem_map.mpr fun uuid _ => summarises_personalContent uuid
    ownDebt := List.forall_mem_map.mpr fun uuid _ => debt_personalContent uuid
    known := fun n hn => by
      rw [Std.ExtTreeMap.mem_iff_isSome_getElem?, ← hnames n hn, Option.isSome_map]
    sameName := hnames
    counts := by
      rw [List.map_map]
      exact total_countOnLeak
    debts := by
      rw [List.map_map]
      exact total_debt }

end Story

/-! ## Completed runs -/

/-- Of notices of one kind, those of a kind are all of them or none. -/
theorem filter_kind {notices : List Notice} {kind : NoticeKind}
    (h : ∀ n ∈ notices, n.kind = kind) (k : NoticeKind) :
    (notices.filter fun n => n.kind == k) = if kind = k then notices else [] := by
  split
  · next hk => exact List.filter_eq_self.mpr fun n hn => by rw [h n hn, hk, beq_self_eq_true]
  · next hk => exact List.filter_eq_nil_iff.mpr fun n hn => by rw [h n hn]; simpa using hk

/-- What a completed run says about new issues, on either channel. -/
theorem newNotices_of_completed {σ : Type} {c : Collaborators σ} {st : Store} (hc : c.Serves st)
    {r : Request} {s : σ} {counters : Counters}
    (h : (execute c r s).result = .ok ⟨.completed, counters⟩) (channel : Channel) :
    notices channel .newIssues (execute c r s).acts =
        r.overallNotices st.issues (st.assigned st.issues) ∧
      notices channel .myNewIssues (execute c r s).acts =
        r.personalNotices st.issues (User.byUuid (st.select (r.owners st.issues))) := by
  have hchanges : ∀ n ∈ (r.period.changed st.issues).filterMap (r.decorated st.rules st.users),
      n.kind = .issueChanges := by
    intro n hn
    obtain ⟨i, -, hi⟩ := List.mem_filterMap.mp hn
    exact kind_of_decorated hi
  have hheard : ∀ kind, notices channel kind (execute c r s).acts =
      (heard channel (execute c r s).acts).filter fun n => n.kind == kind := fun _ => rfl
  simp [hheard, heard_of_completed hc h, Store.newNotices, filter_kind hchanges,
    filter_kind fun _ => kind_of_mem_overallNotices,
    filter_kind fun _ => kind_of_mem_personalNotices]

/-- **The project and its assignees are told the same.** A completed run that sends a notice of all
new issues sends this one alone, on both channels, and the personal notices that tell the same
story. -/
theorem newIssues_execute {st : Store} {r : Request} {u : Usage} {counters : Counters}
    (h : (execute st.collaborators r u).result = .ok ⟨.completed, counters⟩) {channel : Channel}
    {g : NewIssuesNotice}
    (hg : .newIssues g ∈ notices channel .newIssues (execute st.collaborators r u).acts) :
    ∃ personal, SameStory st r g personal ∧ ∀ channel,
      notices channel .newIssues (execute st.collaborators r u).acts = [.newIssues g] ∧
      notices channel .myNewIssues (execute st.collaborators r u).acts =
        personal.map .myNewIssues := by
  have hnew := newNotices_of_completed st.serves h
  rw [(hnew channel).1, Request.overallNotices] at hg
  by_cases hl : (r.rollup st.issues).overall.hasOnLeak
  · rw [if_pos hl] at hg
    obtain rfl : g = st.overallContent r := Notice.newIssues.inj (List.mem_singleton.mp hg)
    refine ⟨_, sameStory st r, fun channel => ?_⟩
    rw [(hnew channel).1, (hnew channel).2, Request.overallNotices, if_pos hl, List.map_map]
    exact ⟨rfl, rfl⟩
  · rw [if_neg hl] at hg
    exact absurd hg List.not_mem_nil

/-- The issues of the small store, one of which is new. -/
theorem newIssues_sample :
    let st := sampleStore [⟨"naming", "Naming"⟩]
    ∃ g personal, SameStory st sampleRequest g personal ∧ ∀ channel,
      notices channel .newIssues (execute st.collaborators sampleRequest {}).acts =
        [.newIssues g] ∧
      notices channel .myNewIssues (execute st.collaborators sampleRequest {}).acts =
        personal.map .myNewIssues := by
  intro st
  obtain ⟨counters, h⟩ := sample_completes [] (m := .fixed true 1 1) rfl
  have hg : .newIssues (st.overallContent sampleRequest) ∈
      notices .email .newIssues (execute st.collaborators sampleRequest {}).acts := by
    rw [(newNotices_of_completed st.serves h .email).1, Request.overallNotices,
      if_pos (hasOnLeak_rollup.mpr (by decide))]
    exact List.mem_singleton_self _
  exact ⟨_, newIssues_execute h hg⟩

end Run

end IssueNotice
