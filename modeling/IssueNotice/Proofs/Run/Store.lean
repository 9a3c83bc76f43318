import IssueNotice.Proofs.Keyed
import IssueNotice.Proofs.Run.Contract
import IssueNotice.Run.Store

/-!
# Collaborators over plain data answer

The collaborators of a store never fail, and what they answer depends on the rows of the store
alone: `answers` is the contract of a run, and `knows_iff`, `lacks_iff`, `resolves_iff`,
`drafts_iff` and `eq_reachOf` read the relations of the contract off the rows. `getElem?_select`
says that it does not matter together with whom a user is looked up.
-/

namespace IssueNotice

/-- Of several rows with one uuid the last counts. -/
theorem User.getElem?_byUuid (users : List User) (uuid : String) :
    (User.byUuid users)[uuid]? = (users.filter fun u => u.uuid == uuid).getLast? :=
  (Keyed.getElem?_ofRows User.uuid id users uuid).trans (congrFun Option.map_id _)

theorem User.uuid_of_getElem?_byUuid {users : List User} {uuid : String} {u : User}
    (h : (User.byUuid users)[uuid]? = some u) : u.uuid = uuid := by
  rw [getElem?_byUuid] at h
  exact beq_iff_eq.mp (List.mem_filter.mp (List.mem_of_getLast? h)).2

/-- Of several rows with one key the last counts. -/
theorem Rule.getElem?_byKey (rules : List Rule) (key : String) :
    (Rule.byKey rules)[key]? = (rules.filter fun r => r.key == key).getLast? :=
  (Keyed.getElem?_ofRows Rule.key id rules key).trans (congrFun Option.map_id _)

namespace Run

/-- How many recipients a messaging service reaches with what an event hands over. -/
def Messaging.reachOf (m : Messaging) : Event → Nat
  | .sendBulk notices => (m.bulk notices).2
  | .sendSingle notice => (m.single notice).2
  | _ => 0

namespace Store

variable {st : Store}

/-- The collaborators of a store never fail, whatever was done with them before. -/
theorem answers (st : Store) : st.collaborators.Answers st.issues where
  stream _ := rfl
  session _ := rfl
  users _ _ := ⟨_, rfl⟩
  bulk _ _ := ⟨_, rfl⟩
  single _ _ := ⟨_, rfl⟩

theorem knows_iff {key : String} :
    st.collaborators.Knows key ↔ ∃ rule, (Rule.byKey st.rules)[key]? = some rule := by
  constructor
  · intro h
    obtain ⟨rule, hr⟩ := h {}
    exact ⟨rule, Except.ok.inj hr⟩
  · rintro ⟨rule, hr⟩ u
    exact ⟨rule, congrArg Except.ok hr⟩

theorem lacks_iff {key : String} :
    st.collaborators.Lacks key ↔ (Rule.byKey st.rules)[key]? = none := by
  constructor
  · intro h
    exact Except.ok.inj (h {})
  · intro h u
    exact congrArg Except.ok h

theorem knows_or_lacks (st : Store) (key : String) :
    st.collaborators.Knows key ∨ st.collaborators.Lacks key := by
  cases hr : (Rule.byKey st.rules)[key]? with
  | none => exact .inr (lacks_iff.mpr hr)
  | some rule => exact .inl (knows_iff.mpr ⟨rule, hr⟩)

theorem resolves_iff {uuids : List String} {users : Keyed User} :
    st.collaborators.Resolves uuids users ↔ users = User.byUuid (st.select uuids) := by
  unfold Collaborators.Resolves
  by_cases he : uuids = []
  · subst he
    rfl
  · rw [if_neg he]
    constructor
    · rintro ⟨u, found, hf, rfl⟩
      rw [← Except.ok.inj hf]
    · rintro rfl
      exact ⟨{}, _, rfl, rfl⟩

theorem drafts_iff {d : Desk} {i : Issue} {notice : Notice} :
    st.collaborators.Drafts d i notice ↔ ∃ rule,
      (Rule.byKey st.rules)[i.ruleKey]? = some rule ∧
        d.change i (some rule) (d.tree.fileNamed i.component) = .ok notice := by
  constructor
  · rintro ⟨u, rule, hr, hn⟩
    exact ⟨rule, Except.ok.inj hr, hn⟩
  · rintro ⟨rule, hr, hn⟩
    exact ⟨{}, rule, congrArg Except.ok hr, hn⟩

/-- A user who was looked up is found as among all users. -/
theorem getElem?_select {uuids : List String} {uuid : String} (h : uuid ∈ uuids) :
    (User.byUuid (st.select uuids))[uuid]? = (User.byUuid st.users)[uuid]? := by
  have hmem : ∀ u, u ∈ (st.select uuids).filter (fun u => u.uuid == uuid) ↔
      (User.byUuid st.users)[uuid]? = some u := by
    intro u
    rw [List.mem_filter, Store.select, List.mem_filterMap, beq_iff_eq]
    constructor
    · rintro ⟨⟨k, -, hk⟩, rfl⟩
      rwa [User.uuid_of_getElem?_byUuid hk]
    · intro hu
      exact ⟨⟨uuid, h, hu⟩, User.uuid_of_getElem?_byUuid hu⟩
  rw [User.getElem?_byUuid]
  cases hf : ((st.select uuids).filter fun u => u.uuid == uuid).getLast? with
  | some u => exact ((hmem u).mp (List.mem_of_getLast? hf)).symm
  | none =>
    rw [List.getLast?_eq_none_iff] at hf
    refine (Option.eq_none_iff_forall_ne_some.mpr fun u hu => ?_).symm
    rw [← hmem u, hf] at hu
    exact absurd hu List.not_mem_nil

/-- A channel says to have reached as many recipients as the messaging service reaches. -/
theorem eq_reachOf {e : Event} {n : Nat} (h : st.collaborators.Reaches e n) :
    n = st.messaging.reachOf e := by
  cases e with
  | sendBulk notices =>
    obtain ⟨u, hu⟩ := h
    exact (Except.ok.inj hu).symm
  | sendSingle notice =>
    obtain ⟨u, hu⟩ := h
    exact (Except.ok.inj hu).symm
  | _ => exact h.elim

end Store

/-! ## A small store -/

/-- Midnight of some day. -/
def sampleDate (day : Int) : Instant where
  day := day
  second := 0
  nano := 0

/-- An analysis of the main branch of a project without files. -/
def sampleRequest : Request where
  analysis := ⟨"project", sampleDate 0, .main "main", none⟩
  tree := .ofRoot ⟨"app", "project", "App", .project, none⟩

/-- A changed issue and one that is new since the analysis. -/
def sampleIssues : List Issue :=
  [ { key := "old", ruleKey := "naming", type := .bug, component := "app",
      created := sampleDate (-1), change := .notifiable },
    { key := "new", ruleKey := "length", type := .codeSmell, component := "app",
      created := sampleDate 0, assignee := some "ada", isNew := true } ]

/-- The issues with some rules; each notice reaches one recipient on each channel. -/
def sampleStore (rules : List Rule) : Store where
  issues := sampleIssues
  rules := rules
  users := []
  messaging := .fixed true 1 1

end Run

end IssueNotice
