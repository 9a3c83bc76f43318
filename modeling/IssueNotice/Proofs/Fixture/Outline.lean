import IssueNotice.Fixture
import IssueNotice.Proofs.Component.Growth
import IssueNotice.Proofs.Fixture.Words

/-!
# The tree of a nested description

A description nests components in each other, and a tree keeps them in one array. An `Outline` is
what both stand for: `ComponentEntry.outline` reads it off a description by recursion, and
`ComponentTree.outline` unfolds it from a place of a tree along the children.

`tree_described` says that the tree of a description is that description: its places are the
components in depth-first order, at each place it unfolds to what is described there, and the walk
meets the described files in post-order. What carries it is `Placed`, which says where the entries
that are pending will stand in the tree that comes out: one behind the other from the end of the
array on, each as the last child of its parent. `addPending_reads` keeps it from entry to entry.
-/

namespace IssueNotice

/-- A component and everything below it. -/
inductive Outline where
  | mk (component : Component) (children : List Outline)

/-- What stands at a place of a tree and below it. -/
def ComponentTree.outline (t : ComponentTree) (i : Fin t.size) : Outline :=
  .mk (t.component i) ((t.children i).map fun c => t.outline c.1)
termination_by t.size - i
decreasing_by
  have := c.2
  have := c.1.isLt
  omega

theorem ComponentTree.outline_eq (t : ComponentTree) (i : Fin t.size) :
    t.outline i = .mk (t.component i) ((t.childPlaces i).map t.outline) := by
  rw [outline, childPlaces, List.map_map]
  rfl

namespace Fixture

namespace ComponentEntry

/-- What is described by an entry. -/
def outline : ComponentEntry → Except UnknownWord Outline
  | .mk key uuid name kind version children => do
    let kind ← ComponentKind.ofText kind
    pure (.mk { key, uuid, name, kind, version } (← children.mapM outline))

theorem outline_eq (e : ComponentEntry) :
    e.outline = (do
      let c ← e.component
      pure (.mk c (← e.children.mapM (·.outline)))) := by
  cases e
  rw [outline, component, children]
  simp

/-- An entry and everything below it, each behind what is below it and siblings in order. -/
def postOrder : ComponentEntry → List ComponentEntry
  | .mk key uuid name kind version children =>
    children.flatMap postOrder ++ [.mk key uuid name kind version children]

theorem postOrder_eq (e : ComponentEntry) :
    e.postOrder = e.children.flatMap (·.postOrder) ++ [e] := by
  cases e
  rw [postOrder]
  rfl

/-- Whether an entry describes a file. -/
def isFile (e : ComponentEntry) : Bool := (ComponentKind.ofText e.kind).toOption == some .file

/-- The word of an entry. -/
def word (e : ComponentEntry) : Word := ⟨.componentKind, e.kind⟩

theorem component_reads (e : ComponentEntry) :
    Reads e.component [e.word] fun c => e.component = .ok c := by
  obtain ⟨key, uuid, name, kind, version, children⟩ := e
  refine (Reads.componentKind kind).map fun k hk => ?_
  rw [component, hk]
  rfl

theorem kind_of_component {e : ComponentEntry} {c : Component} (h : e.component = .ok c) :
    ComponentKind.ofText e.kind = .ok c.kind := by
  obtain ⟨key, uuid, name, word, version, children⟩ := e
  change (ComponentKind.ofText word >>= fun k => pure _) = _ at h
  change ComponentKind.ofText word = _
  cases hk : ComponentKind.ofText word with
  | error w => rw [hk] at h; cases h
  | ok k => rw [hk] at h; cases h; rfl

theorem isFile_of_component {e : ComponentEntry} {c : Component} (h : e.component = .ok c) :
    e.isFile = c.isFile := by
  unfold isFile
  rw [kind_of_component h]
  rfl

/-- An outline is described by an entry iff its component is, and what is below it by the children
of the entry, in the same order. -/
theorem outline_eq_ok {e : ComponentEntry} {c : Component} {below : List Outline} :
    e.outline = .ok (.mk c below) ↔
      e.component = .ok c ∧ List.Forall₂ (fun d o => d.outline = .ok o) e.children below := by
  rw [outline_eq, ← mapM_eq_ok]
  cases e.component with
  | error w => exact ⟨fun h => (nomatch h), fun h => (nomatch h.1)⟩
  | ok c' =>
    cases e.children.mapM (·.outline) with
    | error w => exact ⟨fun h => (nomatch h), fun h => (nomatch h.2)⟩
    | ok below' =>
      constructor
      · intro h
        cases h
        exact ⟨rfl, rfl⟩
      · rintro ⟨⟨⟩, ⟨⟩⟩
        rfl

end ComponentEntry

/-! ## Where pending entries will stand -/

/-- An entry stands at a place of a tree, with everything that is below it. -/
def StandsAt (u : ComponentTree) (k : Nat) (e : ComponentEntry) : Prop :=
  ∃ hk : k < u.size, e.outline = .ok (u.outline ⟨k, hk⟩)

/-- All entries of what is pending, in the order in which they will be added. -/
def upcoming (pending : List (Nat × ComponentEntry)) : List ComponentEntry :=
  pending.flatMap fun p => p.2.preOrder

/-- The places of siblings that are added with everything below them from a place on. -/
def siblings : Nat → List ComponentEntry → List Nat
  | _, [] => []
  | n, e :: rest => n :: siblings (n + e.preOrder.length) rest

/-- The children that a place will get from what is pending, the next free place being `n`. -/
def arrivals (i : Nat) : Nat → List (Nat × ComponentEntry) → List Nat
  | _, [] => []
  | n, (parent, e) :: rest =>
    (if parent = i then [n] else []) ++ arrivals i (n + e.preOrder.length) rest

theorem arrivals_append (i n : Nat) (ps qs : List (Nat × ComponentEntry)) :
    arrivals i n (ps ++ qs) = arrivals i n ps ++ arrivals i (n + (upcoming ps).length) qs := by
  induction ps generalizing n with
  | nil => rfl
  | cons p rest ih =>
    have hlength : n + (upcoming (p :: rest)).length =
        n + p.2.preOrder.length + (upcoming rest).length := by
      rw [upcoming, List.flatMap_cons, List.length_append, Nat.add_assoc]
      rfl
    rw [List.cons_append, arrivals, arrivals, ih, hlength, List.append_assoc]

theorem arrivals_of_ne {i : Nat} {ps : List (Nat × ComponentEntry)} (h : ∀ p ∈ ps, p.1 ≠ i)
    (n : Nat) : arrivals i n ps = [] := by
  induction ps generalizing n with
  | nil => rfl
  | cons p rest ih =>
    rw [arrivals, if_neg (h p List.mem_cons_self), ih fun q hq => h q (List.mem_cons_of_mem _ hq)]
    rfl

theorem arrivals_children (i n : Nat) (es : List ComponentEntry) :
    arrivals i n (es.map (i, ·)) = siblings n es := by
  induction es generalizing n with
  | nil => rfl
  | cons e rest ih =>
    rw [List.map_cons, arrivals, if_pos rfl, ih, siblings]
    rfl

theorem upcoming_children (i : Nat) (es : List ComponentEntry) :
    upcoming (es.map (i, ·)) = es.flatMap (·.preOrder) := by
  rw [upcoming, List.flatMap_map]

theorem upcoming_append (ps qs : List (Nat × ComponentEntry)) :
    upcoming (ps ++ qs) = upcoming ps ++ upcoming qs :=
  List.flatMap_append

/-- Behind an entry comes what is below it, whatever place it is given, and then the rest. -/
theorem upcoming_cons (parent n : Nat) (e : ComponentEntry) (rest : List (Nat × ComponentEntry)) :
    upcoming ((parent, e) :: rest) = e :: upcoming (e.children.map (n, ·) ++ rest) := by
  rw [upcoming_append, upcoming_children, upcoming, List.flatMap_cons, ComponentEntry.preOrder_eq]
  rfl

/-- Siblings stand where they were added, if all entries do. -/
theorem forall₂_siblings {u : ComponentTree} {es : List ComponentEntry} {n : Nat}
    (h : ∀ k d, (es.flatMap (·.preOrder))[k]? = some d → StandsAt u (n + k) d) :
    List.Forall₂ (fun d k => StandsAt u k d) es (siblings n es) := by
  induction es generalizing n with
  | nil => exact .nil
  | cons e rest ih =>
    refine .cons (h 0 e ?_) (ih fun k d hd => ?_)
    · rw [List.flatMap_cons, ComponentEntry.preOrder_eq]
      rfl
    · rw [Nat.add_assoc]
      refine h _ d ?_
      rw [List.flatMap_cons, List.getElem?_append_right (Nat.le_add_right _ _),
        Nat.add_sub_cancel_left]
      exact hd

/-- **An entry stands at a place** that has its component and its children, which stand behind it. -/
theorem standsAt_of_children {u : ComponentTree} {j : Fin u.size} {e : ComponentEntry}
    (hc : e.component = .ok (u.component j))
    (hchildren : (u.node j).children = siblings (j.val + 1) e.children)
    (h : ∀ k d, (e.children.flatMap (·.preOrder))[k]? = some d → StandsAt u (j.val + 1 + k) d) :
    StandsAt u j e := by
  have hstand := forall₂_siblings h
  rw [← hchildren, ← ComponentTree.map_val_childPlaces, List.forall₂_map_right_iff] at hstand
  refine ⟨j.isLt, ?_⟩
  rw [ComponentTree.outline_eq]
  refine ComponentEntry.outline_eq_ok.mpr ⟨hc, ?_⟩
  rw [List.forall₂_map_right_iff]
  exact hstand.imp fun d c hd => hd.2

/-- Where pending entries stand in the tree that comes out when they were added to `t`: one behind
the other, and each as the last child of its parent. -/
structure Placed (t : ComponentTree) (pending : List (Nat × ComponentEntry)) (u : ComponentTree) :
    Prop where
  size_eq : u.size = t.size + (upcoming pending).length
  /-- What was there stays there, and gets the children that were pending for it. -/
  component_eq : ∀ (i : Fin t.size) (j : Fin u.size), j.val = i.val → u.component j = t.component i
  children_eq : ∀ (i : Fin t.size) (j : Fin u.size), j.val = i.val →
    (u.node j).children = (t.node i).children ++ arrivals i t.size pending
  standsAt : ∀ k d, (upcoming pending)[k]? = some d → StandsAt u (t.size + k) d

theorem Placed.nil (t : ComponentTree) : Placed t [] t where
  size_eq := rfl
  component_eq i j hij := by rw [show j = i from Fin.ext hij]
  children_eq i j hij := by rw [show j = i from Fin.ext hij, arrivals, List.append_nil]
  standsAt k d hd := nomatch hd

/-- The children that an added entry brings all arrive at its own place, one behind the other. -/
theorem arrivals_added {n : Nat} {e : ComponentEntry} {rest : List (Nat × ComponentEntry)}
    (hrest : ∀ p ∈ rest, p.1 < n) :
    arrivals n (n + 1) (e.children.map (n, ·) ++ rest) = siblings (n + 1) e.children := by
  rw [arrivals_append, arrivals_children, arrivals_of_ne fun p hp => Nat.ne_of_lt (hrest p hp),
    List.append_nil]

/-- No other place gets anything from an added entry but the entry itself. -/
theorem arrivals_kept {i n : Nat} (hi : i < n) (parent : Nat) (e : ComponentEntry)
    (rest : List (Nat × ComponentEntry)) :
    (if parent = i then [n] else []) ++ arrivals i (n + 1) (e.children.map (n, ·) ++ rest) =
      arrivals i n ((parent, e) :: rest) := by
  have hnone : arrivals i (n + 1) (e.children.map (n, ·)) = [] := by
    refine arrivals_of_ne (fun p hp => ?_) _
    obtain ⟨d, -, rfl⟩ := List.mem_map.mp hp
    exact Nat.ne_of_gt hi
  have hlength : n + 1 + (e.children.flatMap (·.preOrder)).length = n + e.preOrder.length := by
    rw [e.preOrder_eq, List.length_cons]
    omega
  rw [arrivals_append, hnone, upcoming_children, hlength, arrivals]
  rfl

section Cons

variable {t : ComponentTree} {parent : Fin t.size} {e : ComponentEntry} {c : Component}
  {rest : List (Nat × ComponentEntry)} {u : ComponentTree}

/-- What stands behind an entry that was added is what is below it, so it stands at its place. -/
theorem Placed.standsAt_added (hc : e.component = .ok c) (hrest : ∀ p ∈ rest, p.1 < t.size)
    (h : Placed (t.addChild parent c) (e.children.map (t.size, ·) ++ rest) u) :
    StandsAt u t.size e := by
  have hsize := ComponentTree.size_addChild t parent c
  have hplace : t.size < u.size := by
    have := h.size_eq
    omega
  have hcomponent := h.component_eq (t.added parent c) ⟨t.size, hplace⟩ rfl
  have hchildren := h.children_eq (t.added parent c) ⟨t.size, hplace⟩ rfl
  rw [ComponentTree.component_added] at hcomponent
  -- nothing of the rest arrives at the new place, since the parents of the rest are older
  rw [ComponentTree.node_added, ComponentTree.val_added, hsize, List.nil_append,
    arrivals_added hrest] at hchildren
  refine standsAt_of_children (j := ⟨t.size, hplace⟩) (hcomponent ▸ hc) hchildren fun k d hd => ?_
  have hbehind := h.standsAt k d
  rw [hsize, upcoming_append, upcoming_children,
    List.getElem?_append_left (List.getElem?_eq_some_iff.mp hd).1] at hbehind
  exact hbehind hd

/-- **One more entry**: behind it stands what is below it, and then the rest. -/
theorem Placed.cons (hc : e.component = .ok c) (hrest : ∀ p ∈ rest, p.1 < t.size)
    (h : Placed (t.addChild parent c) (e.children.map (t.size, ·) ++ rest) u) :
    Placed t ((parent.val, e) :: rest) u := by
  have hsize := ComponentTree.size_addChild t parent c
  have hupcoming := upcoming_cons parent t.size e rest
  refine ⟨?_, ?_, ?_, ?_⟩
  · rw [h.size_eq, hupcoming, hsize, List.length_cons]
    omega
  · intro i j hij
    rw [h.component_eq (t.kept parent c i) j hij, ComponentTree.component_kept]
  · intro i j hij
    -- the entry itself is the next child of its parent
    rw [h.children_eq (t.kept parent c i) j hij, ComponentTree.node_kept, ComponentTree.val_kept,
      hsize, ← arrivals_kept i.isLt, List.append_assoc]
    simp only [Fin.ext_iff, eq_comm]
  · intro k d hd
    rw [hupcoming] at hd
    cases k with
    | zero =>
      cases hd
      exact h.standsAt_added hc hrest
    | succ k =>
      have hplace : t.size + (k + 1) = (t.addChild parent c).size + k := by omega
      rw [hplace]
      exact h.standsAt k d hd

end Cons

/-- **What is pending is read in depth-first order** and stands in this order behind the tree. -/
theorem addPending_reads (t : ComponentTree) (pending : List (Nat × ComponentEntry))
    (h : ∀ p ∈ pending, p.1 < t.size) :
    Reads (addPending t pending h) ((upcoming pending).map (·.word)) (Placed t pending) := by
  induction t, pending, h using addPending.induct with
  | case1 t =>
    rw [addPending]
    exact Reads.pure (.nil t)
  | case2 t parent e rest h _ ih =>
    rw [addPending, upcoming_cons parent t.size, List.map_cons]
    refine e.component_reads.bind fun c hc => ?_
    have hrest : ∀ p ∈ rest, p.1 < t.size := fun p hp => h p (List.mem_cons_of_mem _ hp)
    exact (ih c).mono fun u hu => hu.cons hc hrest

/-! ## The tree of a description -/

/-- **The entries of a description stand in its tree in depth-first order**, from the root on. -/
theorem tree_reads (e : ComponentEntry) :
    Reads e.tree (e.preOrder.map (·.word)) fun t =>
      t.size = e.preOrder.length ∧ ∀ k d, e.preOrder[k]? = some d → StandsAt t k d := by
  have hupcoming := upcoming_children 0 e.children
  rw [ComponentEntry.preOrder_eq, List.map_cons, ← hupcoming]
  refine e.component_reads.bind fun c hc => (addPending_reads _ _ _).mono fun u hu => ?_
  have hroot : StandsAt u 0 e := by
    have hcomponent := hu.component_eq (ComponentTree.ofRoot c).root u.root rfl
    have hchildren := hu.children_eq (ComponentTree.ofRoot c).root u.root rfl
    refine standsAt_of_children (j := u.root) (hcomponent ▸ hc) ?_ fun k d hd => ?_
    · rw [hchildren, ← arrivals_children 0]
      rfl
    · exact hu.standsAt k d (hupcoming ▸ hd)
  refine ⟨hu.size_eq.trans (Nat.add_comm _ _), fun k d hd => ?_⟩
  cases k with
  | zero =>
    cases hd
    exact hroot
  | succ k =>
    rw [Nat.add_comm]
    exact hu.standsAt k d hd

/-- An entry is described at a place of a tree. -/
abbrev DescribedAt (t : ComponentTree) (d : ComponentEntry) (i : Fin t.size) : Prop :=
  d.outline = .ok (t.outline i)

theorem forall₂_flatMap {α β γ δ : Type} {R : α → β → Prop} {S : γ → δ → Prop} {f : α → List γ}
    {g : β → List δ} {xs : List α} {ys : List β} (h : List.Forall₂ R xs ys)
    (hfg : ∀ x, ∀ y ∈ ys, R x y → List.Forall₂ S (f x) (g y)) :
    List.Forall₂ S (xs.flatMap f) (ys.flatMap g) := by
  induction h with
  | nil => exact .nil
  | cons hxy _ ih =>
    exact List.rel_append (hfg _ _ List.mem_cons_self hxy)
      (ih fun x y hy => hfg x y (List.mem_cons_of_mem _ hy))

/-- **What is described at a place comes in the same post-order** in the description and in the
tree. -/
theorem forall₂_postOrder {t : ComponentTree} {d : ComponentEntry} {i : Fin t.size}
    (h : DescribedAt t d i) : List.Forall₂ (DescribedAt t) d.postOrder (t.postOrder i) := by
  induction i using t.induction_up generalizing d with
  | step i ih =>
    rw [ComponentEntry.postOrder_eq, t.postOrder_eq]
    refine List.rel_append ?_ (.cons h .nil)
    rw [DescribedAt, t.outline_eq, ComponentEntry.outline_eq_ok, List.forall₂_map_right_iff] at h
    exact forall₂_flatMap h.2 fun d c hc hd => ih c hc hd

theorem component_of_described {t : ComponentTree} {d : ComponentEntry} {i : Fin t.size}
    (h : DescribedAt t d i) : d.component = .ok (t.component i) := by
  rw [DescribedAt, t.outline_eq, ComponentEntry.outline_eq_ok] at h
  exact h.1

/-- **The tree of a description is what is described.** If a component has an unknown kind, the
first such in depth-first order is reported. If not, the places of the tree are the components in
depth-first order, at each place and so at the root the tree unfolds to what is described there,
and the walk meets the described files in post-order. -/
theorem tree_described (e : ComponentEntry) :
    match e.preOrder.find? fun d => !(ComponentKind.ofText d.kind).isOk with
    | some d =>
      e.tree = .error ⟨.componentKind, d.kind⟩ ∧
        UnknownWord.message ⟨.componentKind, d.kind⟩ = "Unknown component type: " ++ d.kind
    | none =>
      ∃ t, e.tree = .ok t ∧ e.outline = .ok (t.outline t.root) ∧
        List.Forall₂ (fun d i => d.outline = .ok (t.outline i)) e.preOrder (List.finRange t.size) ∧
        List.Forall₂ (fun d i => d.component = .ok (t.component i))
          (e.postOrder.filter (·.isFile)) t.files := by
  have hread := tree_reads e
  have hwords : Word.firstUnknown (e.preOrder.map (·.word)) =
      (e.preOrder.find? fun d => !(ComponentKind.ofText d.kind).isOk).map (·.word) :=
    List.find?_map
  split
  · next d hd =>
    rw [hd] at hwords
    exact ⟨hread.of_some hwords, rfl⟩
  · next hnone =>
    rw [hnone] at hwords
    obtain ⟨t, ht, hsize, hstand⟩ := hread.of_none hwords
    have hroot : DescribedAt t e t.root :=
      (hstand 0 e (by rw [ComponentEntry.preOrder_eq]; rfl)).2
    refine ⟨t, ht, hroot, ?_, ?_⟩
    · refine List.forall₂_iff_get.mpr ⟨by rw [List.length_finRange, hsize], fun k hk hk' => ?_⟩
      rw [List.get_eq_getElem, List.get_eq_getElem, List.getElem_finRange]
      exact (hstand k _ (List.getElem?_eq_getElem hk)).2
    · rw [ComponentTree.files_eq]
      have hfiles := (forall₂_postOrder hroot).imp fun _ _ => component_of_described
      exact List.rel_filter
        (fun _ _ hd => Bool.eq_iff_iff.mp (ComponentEntry.isFile_of_component hd)) hfiles

end Fixture

end IssueNotice
