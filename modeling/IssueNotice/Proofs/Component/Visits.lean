import IssueNotice.Proofs.Component.Growth
import Mathlib.Logic.Function.Iterate

/-!
# A walk step by step

`Walk.step` takes one entry off the stack of a walk, and `Walk.calls` are the calls that the visitor
has got so far, each with a place and the component there. A stack is worked off after as many steps
as its entries take (`Walk.iterate_step`); below a component that is one step for a childless
component and two for any other (`pops`).

* `visits_grown`: in a tree that was grown from its project a walk ends, after at most two steps for
  each component. Its visitor is called with the files in post-order, with each of them once and
  with nothing else, and always with the component that was added as the one of that number.
-/

namespace IssueNotice.ComponentTree

/-- A walk under way: the entries that are left, the top of the stack first, and the calls so far. -/
structure Walk (t : ComponentTree) where
  stack : List (Fin t.size × Bool)
  calls : List (Fin t.size × Component)

section Steps

variable (t : ComponentTree)

/-- A call of the visitor: a place and the component there. -/
def call (i : Fin t.size) : Fin t.size × Component := (i, t.component i)

/-- What the visitor gets at a place, which is nothing unless a file is there. -/
def callsAt (i : Fin t.size) : List (Fin t.size × Component) :=
  if (t.component i).isFile then [t.call i] else []

theorem callsAt_eq (i : Fin t.size) : t.callsAt i = (t.visit i).map t.call := by
  unfold callsAt visit
  split <;> rfl

variable {t}

/-- Takes the top entry off the stack; a walk without entries has ended. -/
def Walk.step (w : Walk t) : Walk t :=
  match w.stack with
  | [] => w
  | (i, expanded) :: rest =>
    if expanded || (t.children i).isEmpty then ⟨rest, w.calls ++ t.callsAt i⟩
    else ⟨(t.childPlaces i).map (·, false) ++ (i, true) :: rest, w.calls⟩

/-- A walk from the root. -/
def Walk.start (t : ComponentTree) : Walk t := ⟨[(t.root, false)], []⟩

variable (t)

/-- How often a component is taken off the stack: again behind its children, if it has any. -/
def pops (i : Fin t.size) : Nat := if t.children i = [] then 1 else 2

/-- How many steps it takes to work off an entry and all that it brings onto the stack. -/
def entryPops : Fin t.size × Bool → Nat
  | (_, true) => 1
  | (i, false) => total ((t.postOrder i).map t.pops)

theorem entryPops_false (i : Fin t.size) : t.entryPops (i, false) =
    total ((t.childPlaces i).map fun c => t.entryPops (c, false)) + t.pops i := by
  have hflat : ∀ places : List (Fin t.size),
      total ((places.flatMap t.postOrder).map t.pops) =
        total (places.map fun c => t.entryPops (c, false)) := by
    intro places
    induction places with
    | nil => rfl
    | cons c rest ih =>
      rw [List.flatMap_cons, List.map_append, total_append, ih, List.map_cons, total_cons]
      rfl
  rw [entryPops, postOrder_eq, List.map_append, total_append, hflat]
  rfl

/-- **A stack is worked off** after the steps that its entries take, and then the visitor has got
the files that `walk` lists for it. -/
theorem Walk.iterate_step (stack : List (Fin t.size × Bool)) (calls : List (Fin t.size × Component)) :
    Walk.step^[total (stack.map t.entryPops)] ⟨stack, calls⟩ =
      ⟨[], calls ++ (t.walk stack).map t.call⟩ := by
  fun_induction walk t stack generalizing calls with
  | case1 => exact congrArg (Walk.mk []) (List.append_nil calls).symm
  | case2 i rest ih =>
    have hstep : Walk.step ⟨(i, true) :: rest, calls⟩ = ⟨rest, calls ++ t.callsAt i⟩ := rfl
    rw [List.map_cons, total_cons, entryPops, Nat.add_comm, Function.iterate_succ_apply, hstep, ih,
      callsAt_eq, List.map_append, List.append_assoc]
  | case3 i rest hleaf ih =>
    have hstep : Walk.step ⟨(i, false) :: rest, calls⟩ = ⟨rest, calls ++ t.callsAt i⟩ := by
      simp [Walk.step, hleaf]
    have hpops : t.entryPops (i, false) = 1 := by
      rw [entryPops_false, t.childPlaces_eq_nil.mpr hleaf, pops, if_pos hleaf]
      rfl
    rw [List.map_cons, total_cons, hpops, Nat.add_comm, Function.iterate_succ_apply, hstep, ih,
      callsAt_eq, List.map_append, List.append_assoc]
  | case4 i rest hne ih =>
    have hstep : Walk.step ⟨(i, false) :: rest, calls⟩ =
        ⟨(t.children i).map (fun c => (c.1, false)) ++ (i, true) :: rest, calls⟩ := by
      simp [Walk.step, hne, childPlaces]
    -- the component was paid for twice, and its second entry is the one behind its children
    have hpops : total (((i, false) :: rest).map t.entryPops) = total
        (((t.children i).map (fun c => (c.1, false)) ++ (i, true) :: rest).map t.entryPops) + 1 := by
      rw [List.map_cons, total_cons, entryPops_false, List.map_append, total_append, List.map_cons,
        total_cons, pops, if_neg hne, List.map_map, childPlaces, List.map_map, entryPops]
      simp only [Function.comp_def]
      omega
    rw [hpops, Function.iterate_succ_apply, hstep, ih]

/-- Working off a tree takes at most two steps for each component. -/
theorem entryPops_le (i : Fin t.size) : t.entryPops (i, false) ≤ 2 * (t.postOrder i).length := by
  rw [entryPops]
  induction t.postOrder i with
  | nil => exact Nat.le_refl _
  | cons k rest ih =>
    have hk : t.pops k ≤ 2 := by
      unfold pops
      split <;> omega
    rw [List.map_cons, total_cons, List.length_cons]
    omega

end Steps

/-- **A walk over a grown tree is the recursive post-order.** It ends, after at most two steps for
each component; the visitor gets the files in post-order, where the children of a component are the
ones added under it in order, each file once and nothing else, and with the number of a component
the component that was added under this number. -/
theorem visits_grown {project : Component} {rows : List (Nat × Component)} {t : ComponentTree}
    (h : Grown project rows t) :
    ∃ n ≤ 2 * t.size, ∃ calls, Walk.step^[n] (Walk.start t) = ⟨[], calls⟩ ∧
      calls.map Prod.fst = t.files ∧
      calls.map Prod.fst = (t.postOrder t.root).filter t.isFileAt ∧
      (∀ i, (t.childPlaces i).map Fin.val =
        ((rows.zipIdx 1).filter fun r => r.1.1 == i.val).map Prod.snd) ∧
      (∀ i, (calls.map Prod.fst).count i = if (t.component i).isFile then 1 else 0) ∧
      ∀ call ∈ calls, (project :: rows.map Prod.snd)[call.1.val]? = some call.2 := by
  have hplaces : (t.files.map t.call).map Prod.fst = t.files := by
    rw [List.map_map]
    exact List.map_id _
  refine ⟨t.entryPops (t.root, false), ?_, t.files.map t.call, ?_, hplaces, ?_, h.childPlaces_eq,
    fun i => ?_, fun call hcall => ?_⟩
  · calc t.entryPops (t.root, false) ≤ 2 * (t.postOrder t.root).length := t.entryPops_le t.root
      _ = 2 * t.size := by rw [h.length_postOrder]
  · exact Walk.iterate_step t [(t.root, false)] []
  · rw [hplaces, files_eq]
  · rw [hplaces, h.count_files]
  · obtain ⟨i, -, rfl⟩ := List.mem_map.mp hcall
    exact h.getElem?_rows i

/-- The walk over the sample tree meets the file that was added last first. -/
theorem visits_sample :
    Grown sampleProject sampleRows sampleTree ∧
      ∃ n ≤ 2 * 5, ∃ calls, Walk.step^[n] (Walk.start sampleTree) = ⟨[], calls⟩ ∧
        calls.map (·.1.val) = [4, 2, 3] ∧
        ∀ call ∈ calls, (sampleProject :: sampleRows.map Prod.snd)[call.1.val]? = some call.2 := by
  obtain ⟨n, hn, calls, hend, hfiles, -, -, -, hown⟩ := visits_grown grown_sample
  have hplaces : sampleTree.files.map Fin.val = [4, 2, 3] := by
    rw [files_eq]
    cbv
  rw [← hfiles, List.map_map] at hplaces
  exact ⟨grown_sample, n, hn, calls, hend, hplaces, hown⟩

end IssueNotice.ComponentTree
