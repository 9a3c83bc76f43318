import IssueNotice.Proofs.Component.PostOrder
import Mathlib.Data.List.FinRange

/-!
# Trees that are grown one component at a time

`ComponentTree.Grown project rows t`: the tree `t` comes from its project by adding the components
of `rows` one after the other, each under any component that is in the tree by then. The arena of
such a tree is read off the rows: places are numbered in the order of the additions
(`Grown.components`), and the children of a place are the rows that were added under it, in order
(`Grown.childPlaces`).

What carries the results on walks is `postOrder_addChild`: in post-order a component that is added
as the last child of another comes right before it, and nothing else moves. So each addition keeps
every place in the post-order exactly once (`Grown.count_postOrder`).
-/

namespace IssueNotice.ComponentTree

/-- The trees that are grown from a project by additions, each row with the place of the parent. -/
inductive Grown (project : Component) : List (Nat × Component) → ComponentTree → Prop
  | root : Grown project [] (ofRoot project)
  | add {rows : List (Nat × Component)} {t : ComponentTree} (h : Grown project rows t)
      (parent : Fin t.size) (c : Component) :
      Grown project (rows ++ [(parent.val, c)]) (t.addChild parent c)

/-- The project of the sample tree. -/
def sampleProject : Component := ⟨"app", "p", "App", .project, some "1.0"⟩

/-- What is added to the sample project: a folder, two files of one key, and a last file. -/
def sampleParts : List Component :=
  [⟨"app:src", "d", "src", .directory, none⟩, ⟨"app:Main.java", "f1", "Main.java", .file, none⟩,
    ⟨"app:Main.java", "f2", "Main.java (old)", .file, none⟩,
    ⟨"app:Test.java", "f3", "Test.java", .file, none⟩]

/-- The additions to the sample project. The last one goes under a file. -/
def sampleRows : List (Nat × Component) := [0, 1, 0, 2].zip sampleParts

/-- The sample project with its additions. -/
def sampleTree : ComponentTree :=
  ((((ofRoot sampleProject).addChild ⟨0, by decide⟩ sampleParts[0]).addChild
    ⟨1, by decide⟩ sampleParts[1]).addChild ⟨0, by decide⟩ sampleParts[2]).addChild
    ⟨2, by decide⟩ sampleParts[3]

theorem grown_sample : Grown sampleProject sampleRows sampleTree := by
  have h₀ : Grown sampleProject [] (ofRoot sampleProject) := .root
  have h₁ := h₀.add ⟨0, by decide⟩ sampleParts[0]
  have h₂ := h₁.add ⟨1, by decide⟩ sampleParts[1]
  have h₃ := h₂.add ⟨0, by decide⟩ sampleParts[2]
  exact h₃.add ⟨2, by decide⟩ sampleParts[3]

/-! ## Children by their places -/

section Children

variable (t : ComponentTree)

/-- The places of the children of a component, in order. -/
def childPlaces (i : Fin t.size) : List (Fin t.size) := (t.children i).map (·.1)

theorem map_val_childPlaces (i : Fin t.size) :
    (t.childPlaces i).map Fin.val = (t.node i).children := by
  unfold childPlaces children
  rw [List.map_map, List.map_map]
  exact List.attach_map_subtype_val _

theorem childPlaces_eq_nil {i : Fin t.size} : t.childPlaces i = [] ↔ t.children i = [] :=
  List.map_eq_nil_iff

theorem postOrder_eq (i : Fin t.size) :
    t.postOrder i = (t.childPlaces i).flatMap t.postOrder ++ [i] := by
  rw [postOrder, childPlaces, List.flatMap_map]

/-- Whatever holds of a component as soon as it holds of its children holds of all. -/
theorem induction_up {motive : Fin t.size → Prop}
    (step : ∀ i, (∀ c ∈ t.childPlaces i, motive c) → motive i) (i : Fin t.size) : motive i := by
  induction i using postOrder.induct t with
  | case1 i ih =>
    refine step i fun c hc => ?_
    obtain ⟨d, -, rfl⟩ := List.mem_map.mp hc
    exact ih d

end Children

/-! ## What an addition does -/

section AddChild

variable (t : ComponentTree) (parent : Fin t.size) (c : Component)

/-- A place keeps its number when a component is added. -/
def kept (i : Fin t.size) : Fin (t.addChild parent c).size :=
  i.castLE (by rw [size_addChild]; exact Nat.le_succ _)

/-- The place of an added component. -/
def added : Fin (t.addChild parent c).size := ⟨t.size, by rw [size_addChild]; exact Nat.lt_succ_self _⟩

theorem kept_or_added (j : Fin (t.addChild parent c).size) :
    (∃ i, j = t.kept parent c i) ∨ j = t.added parent c := by
  have hj : j.val < t.size + 1 := j.isLt.trans_eq (size_addChild t parent c)
  rcases Nat.lt_succ_iff_lt_or_eq.mp hj with h | h
  · exact .inl ⟨⟨j, h⟩, rfl⟩
  · exact .inr (Fin.ext h)

@[simp]
theorem val_kept (i : Fin t.size) : (t.kept parent c i).val = i.val := rfl

@[simp]
theorem val_added : (t.added parent c).val = t.size := rfl

theorem kept_injective : Function.Injective (t.kept parent c) := by
  intro i j h
  have hval := congrArg Fin.val h
  exact Fin.ext hval

theorem kept_ne_added (i : Fin t.size) : t.kept parent c i ≠ t.added parent c :=
  fun h => Nat.ne_of_lt i.isLt (Fin.val_eq_of_eq h)

/-- The nodes behind an addition: the old ones, of which the parent has one more child, and the
added one. -/
theorem node_addChild (j : Fin (t.addChild parent c).size) : (t.addChild parent c).node j =
    if h : j.val < t.size then
      { t.node ⟨j, h⟩ with
        children := (t.node ⟨j, h⟩).children ++ if ⟨j, h⟩ = parent then [t.size] else [] }
    else { component := c } := by
  unfold node addChild
  rw [Array.getElem_push]
  simp only [Array.size_modify, size]
  split
  · rw [Array.getElem_modify]
    by_cases hparent : parent.val = j.val
    · rw [if_pos hparent, if_pos (Fin.ext hparent.symm)]
    · rw [if_neg hparent, if_neg fun e => hparent (congrArg Fin.val e).symm, List.append_nil]
  · rfl

theorem node_kept (i : Fin t.size) : (t.addChild parent c).node (t.kept parent c i) =
    { t.node i with
      children := (t.node i).children ++ if i = parent then [t.size] else [] } := by
  rw [node_addChild]
  exact dif_pos i.isLt

theorem node_added : (t.addChild parent c).node (t.added parent c) = { component := c } := by
  rw [node_addChild]
  exact dif_neg (Nat.lt_irrefl t.size)

@[simp]
theorem component_kept (i : Fin t.size) :
    (t.addChild parent c).component (t.kept parent c i) = t.component i := by
  rw [component, node_kept]
  rfl

@[simp]
theorem component_added : (t.addChild parent c).component (t.added parent c) = c := by
  rw [component, node_added]

/-- Only the parent gets a child, behind those it has. -/
theorem childPlaces_kept (i : Fin t.size) :
    (t.addChild parent c).childPlaces (t.kept parent c i) =
      (t.childPlaces i).map (t.kept parent c) ++ if i = parent then [t.added parent c] else [] := by
  apply List.map_injective_iff.mpr Fin.val_injective
  rw [map_val_childPlaces, node_kept, List.map_append, List.map_map, ← map_val_childPlaces]
  split <;> rfl

theorem childPlaces_added : (t.addChild parent c).childPlaces (t.added parent c) = [] := by
  apply List.map_injective_iff.mpr Fin.val_injective
  rw [map_val_childPlaces, node_added]
  rfl

/-- The new place of a component in a post-order: the added one comes right before its parent. -/
def withAdded (k : Fin t.size) : List (Fin (t.addChild parent c).size) :=
  (if k = parent then [t.added parent c] else []) ++ [t.kept parent c k]

/-- **In post-order an added component comes right before its parent**, and nothing else moves. -/
theorem postOrder_addChild (i : Fin t.size) :
    (t.addChild parent c).postOrder (t.kept parent c i) =
      (t.postOrder i).flatMap (t.withAdded parent c) := by
  induction i using t.induction_up with
  | step i ih =>
    have hadded : (t.addChild parent c).postOrder (t.added parent c) = [t.added parent c] := by
      rw [postOrder_eq, childPlaces_added]
      rfl
    rw [postOrder_eq, childPlaces_kept, t.postOrder_eq, List.flatMap_append, List.flatMap_map,
      List.flatMap_append, List.flatMap_assoc, List.append_assoc, List.flatMap_singleton,
      List.flatMap_congr ih]
    unfold withAdded
    -- both sides agree below the old children; what is left is the new child, if there is one here
    split
    · rw [List.flatMap_singleton, hadded]
    · rfl

/-- The place of the old tree with which a place comes in a post-order of the new one. -/
def origin (j : Fin (t.addChild parent c).size) : Fin t.size :=
  if h : j.val < t.size then ⟨j.val, h⟩ else parent

theorem origin_kept (i : Fin t.size) : t.origin parent c (t.kept parent c i) = i :=
  dif_pos i.isLt

theorem origin_added : t.origin parent c (t.added parent c) = parent :=
  dif_neg (Nat.lt_irrefl t.size)

theorem count_withAdded (k : Fin t.size) (j : Fin (t.addChild parent c).size) :
    (t.withAdded parent c k).count j = if k == t.origin parent c j then 1 else 0 := by
  unfold withAdded
  rcases t.kept_or_added parent c j with ⟨i, rfl⟩ | rfl
  · have hadded : (t.added parent c == t.kept parent c i) = false :=
      beq_false_of_ne (t.kept_ne_added parent c i).symm
    have hkept : (t.kept parent c k == t.kept parent c i) = (k == i) :=
      (t.kept_injective parent c).beq_eq
    rw [origin_kept]
    split <;> simp [List.count_cons, hadded, hkept]
  · have hkept : (t.kept parent c k == t.added parent c) = false :=
      beq_false_of_ne (t.kept_ne_added parent c k)
    rw [origin_added, List.count_append, List.count_singleton, hkept]
    by_cases hk : k = parent
    · simp [hk]
    · simp [hk]

/-- A place comes in the new post-order as often as its origin did in the old one. -/
theorem count_flatMap_withAdded (ks : List (Fin t.size)) (j : Fin (t.addChild parent c).size) :
    (ks.flatMap (t.withAdded parent c)).count j = ks.count (t.origin parent c j) := by
  induction ks with
  | nil => rfl
  | cons k rest ih =>
    rw [List.flatMap_cons, List.count_append, ih, count_withAdded, List.count_cons, Nat.add_comm]

end AddChild

/-! ## The arena of a grown tree -/

namespace Grown

variable {project : Component} {rows : List (Nat × Component)} {t : ComponentTree}

theorem size_eq (h : Grown project rows t) : t.size = rows.length + 1 := by
  induction h with
  | root => rfl
  | add _ parent c ih =>
    rw [size_addChild, List.length_append, List.length_singleton]
    exact congrArg (· + 1) ih

/-- **Components are numbered in the order in which they were added**, the project first. -/
theorem getElem?_rows (h : Grown project rows t) (i : Fin t.size) :
    (project :: rows.map Prod.snd)[i.val]? = some (t.component i) := by
  induction h with
  | root =>
    obtain rfl : i = (ofRoot project).root := Fin.ext (Nat.lt_one_iff.mp i.isLt)
    rfl
  | @add rows t h parent c ih =>
    rw [List.map_append, ← List.cons_append]
    have hlength : (project :: rows.map Prod.snd).length = t.size := by
      rw [List.length_cons, List.length_map, h.size_eq]
    rcases t.kept_or_added parent c i with ⟨k, rfl⟩ | rfl
    · rw [component_kept, ← ih k]
      exact List.getElem?_append_left (hlength ▸ k.isLt)
    · rw [component_added]
      have hlast : (project :: rows.map Prod.snd).length ≤ (t.added parent c).val :=
        Nat.le_of_eq hlength
      rw [List.getElem?_append_right hlast, val_added, hlength, Nat.sub_self]
      rfl

/-- Every component is added under an earlier one. -/
theorem parent_lt (h : Grown project rows t) : ∀ r ∈ rows, r.1 < t.size := by
  induction h with
  | root => exact fun _ hr => absurd hr List.not_mem_nil
  | add _ parent c ih =>
    intro r hr
    rw [size_addChild]
    rcases List.mem_append.mp hr with hr | hr
    · exact Nat.lt_succ_of_lt (ih r hr)
    · obtain rfl := List.mem_singleton.mp hr
      exact Nat.lt_succ_of_lt parent.isLt

/-- **The children of a component are those that were added under it**, in order. -/
theorem childPlaces_eq (h : Grown project rows t) (i : Fin t.size) :
    (t.childPlaces i).map Fin.val =
      ((rows.zipIdx 1).filter fun r => r.1.1 == i.val).map Prod.snd := by
  induction h with
  | root =>
    obtain rfl : i = (ofRoot project).root := Fin.ext (Nat.lt_one_iff.mp i.isLt)
    rfl
  | @add rows t h parent c ih =>
    have hlast : 1 + rows.length = t.size := by rw [h.size_eq, Nat.add_comm]
    rw [List.zipIdx_append, List.filter_append, List.map_append, List.zipIdx_singleton, hlast]
    rcases t.kept_or_added parent c i with ⟨k, rfl⟩ | rfl
    · rw [childPlaces_kept, List.map_append, List.map_map]
      refine congrArg₂ _ (ih k) ?_
      by_cases hk : k = parent
      · subst hk
        simp [added, kept]
      · have hne : ¬ parent.val = k.val := fun e => hk (Fin.ext e.symm)
        simp [hk, hne, kept]
    · have hold : (rows.zipIdx 1).filter (fun r => r.1.1 == (t.added parent c).val) = [] := by
        refine List.filter_eq_nil_iff.mpr fun r hr => ?_
        have := h.parent_lt r.1 (List.fst_mem_of_mem_zipIdx hr)
        simpa [added] using Nat.ne_of_lt this
      have hne : ¬ parent.val = t.size := Nat.ne_of_lt parent.isLt
      rw [childPlaces_added, hold]
      simp [added, hne]

/-- **Every place comes exactly once in the post-order.** -/
theorem count_postOrder (h : Grown project rows t) (i : Fin t.size) :
    (t.postOrder t.root).count i = 1 := by
  induction h with
  | root =>
    obtain rfl : i = (ofRoot project).root := Fin.ext (Nat.lt_one_iff.mp i.isLt)
    rw [postOrder_eq]
    exact List.count_singleton_self
  | @add rows t h parent c ih =>
    have hroot : (t.addChild parent c).root = t.kept parent c t.root := rfl
    rw [hroot, postOrder_addChild, count_flatMap_withAdded]
    exact ih _

theorem length_postOrder (h : Grown project rows t) : (t.postOrder t.root).length = t.size := by
  have hperm : (t.postOrder t.root).Perm (List.finRange t.size) :=
    List.perm_iff_count.mpr fun i => by
      rw [h.count_postOrder, (List.nodup_finRange t.size).count, if_pos (List.mem_finRange i)]
  rw [hperm.length_eq, List.length_finRange]

theorem mem_postOrder (h : Grown project rows t) (i : Fin t.size) : i ∈ t.postOrder t.root :=
  List.count_pos_iff.mp (by rw [h.count_postOrder]; exact Nat.one_pos)

/-- **The walk meets each file once** and nothing else. -/
theorem count_files (h : Grown project rows t) (i : Fin t.size) :
    t.files.count i = if (t.component i).isFile then 1 else 0 := by
  rw [files_eq]
  split
  · next hfile =>
    have hfileAt : t.isFileAt i = true := hfile
    rw [List.count_filter hfileAt, h.count_postOrder]
  · next hfile => exact List.count_eq_zero.mpr fun hi => hfile (List.mem_filter.mp hi).2

end Grown

end IssueNotice.ComponentTree
