import IssueNotice.Component
import IssueNotice.Total

/-!
# Component trees

A project's components in one array, the root first, each with the places of its children. A child
is added behind all other components, so its place is greater than its parent's. This orders the
tree, and walks over it end.

`ComponentTree.files` walks the tree with a stack and lists the files, children before their parent
and siblings in the order in which they were added.
-/

namespace IssueNotice

/-- A component and the places of its children. -/
structure TreeNode where
  component : Component
  children : List Nat := []
  deriving Repr, DecidableEq

/-- A project's components, the root first. -/
structure ComponentTree where
  nodes : Array TreeNode
  size_pos : 0 < nodes.size
  /-- Children stand behind their parent. -/
  children_lt : ∀ (i : Nat) (h : i < nodes.size), ∀ c ∈ nodes[i].children, i < c ∧ c < nodes.size

namespace ComponentTree

/-- Number of components. -/
abbrev size (t : ComponentTree) : Nat := t.nodes.size

/-- The tree of a root alone. -/
def ofRoot (c : Component) : ComponentTree where
  nodes := #[{ component := c }]
  size_pos := by simp
  children_lt := by simp

/-- Place of the root. -/
def root (t : ComponentTree) : Fin t.size := ⟨0, t.size_pos⟩

/-- The node at a place. -/
def node (t : ComponentTree) (i : Fin t.size) : TreeNode := t.nodes[i.val]

/-- The component at a place. -/
def component (t : ComponentTree) (i : Fin t.size) : Component := (t.node i).component

/-- The children of a component, in the order in which they were added. -/
def children (t : ComponentTree) (i : Fin t.size) : List { c : Fin t.size // i < c } :=
  (t.node i).children.attach.map fun c =>
    ⟨⟨c.1, (t.children_lt i.val i.isLt c.1 c.2).2⟩, (t.children_lt i.val i.isLt c.1 c.2).1⟩

/-- The project itself. -/
def project (t : ComponentTree) : Component := t.component t.root

/-- Adds a component as the last child of another. -/
def addChild (t : ComponentTree) (parent : Fin t.size) (c : Component) : ComponentTree where
  nodes :=
    (t.nodes.modify parent fun n => { n with children := n.children ++ [t.size] }).push
      { component := c }
  size_pos := by simp
  children_lt := by
    have hp := parent.isLt
    unfold size at hp
    intro i h d hd
    simp only [Array.size_push, Array.size_modify] at h ⊢
    rw [Array.getElem_push] at hd
    split at hd
    · rename_i hi
      simp only [Array.size_modify] at hi
      rw [Array.getElem_modify] at hd
      split at hd
      · rename_i he
        simp only [List.mem_append, List.mem_singleton, size] at hd
        rcases hd with hd | hd
        · have := t.children_lt i hi d hd
          omega
        · omega
      · have := t.children_lt i hi d hd
        omega
    · simp at hd

/-- A tree grows by one component at a time. -/
theorem size_addChild (t : ComponentTree) (parent : Fin t.size) (c : Component) :
    (t.addChild parent c).size = t.size + 1 := by
  simp [addChild, size]

/-- Steps that a walk takes below a component and at it. -/
def cost (t : ComponentTree) (i : Fin t.size) : Nat :=
  2 + total ((t.children i).map fun c => t.cost c.1)
termination_by t.size - i
decreasing_by
  have := c.2
  have := c.1.isLt
  omega

/-- Steps that remain for a stack entry: one for a component whose children were pushed. -/
def entryCost (t : ComponentTree) (e : Fin t.size × Bool) : Nat :=
  if e.2 then 1 else t.cost e.1

/-- A component, if it is a file. -/
def visit (t : ComponentTree) (i : Fin t.size) : List (Fin t.size) :=
  if (t.component i).isFile then [i] else []

/--
The files met while a stack is worked off. An entry holds a component and whether its children were
pushed already; a component is visited when they were, or when it has none.
-/
def walk (t : ComponentTree) : List (Fin t.size × Bool) → List (Fin t.size)
  | [] => []
  | (i, true) :: rest => t.visit i ++ t.walk rest
  | (i, false) :: rest =>
    if t.children i = [] then t.visit i ++ t.walk rest
    else t.walk ((t.children i).map (fun c => (c.1, false)) ++ (i, true) :: rest)
termination_by stack => total (stack.map t.entryCost)
decreasing_by
  · simp [entryCost]
  · simp only [List.map_cons, total_cons, entryCost, Bool.false_eq_true, if_false]
    rw [cost]
    omega
  · simp only [List.map_cons, total_cons, List.map_append, total_append, entryCost,
      Bool.false_eq_true, if_false, if_true, List.map_map, Function.comp_def]
    rw [cost.eq_def t i]
    omega

/-- The files, children before their parent and siblings in order. -/
def files (t : ComponentTree) : List (Fin t.size) :=
  t.walk [(t.root, false)]

end ComponentTree

end IssueNotice
