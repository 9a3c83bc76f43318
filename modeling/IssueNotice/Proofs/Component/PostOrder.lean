import IssueNotice.Component.FileIndex
import IssueNotice.Proofs.Keyed

/-!
# Files in post-order

`ComponentTree.postOrder` lists the components of a tree by recursion: what is below each child,
then the component itself. The walk with a stack meets the files in this order
(`ComponentTree.files_eq`), so that the table of files has under each key the last file with that
key in post-order (`ComponentTree.getElem?_fileTable`).
-/

namespace IssueNotice.ComponentTree

/-- The components from a component down, children before their parent and siblings in order. -/
def postOrder (t : ComponentTree) (i : Fin t.size) : List (Fin t.size) :=
  (t.children i).flatMap (fun c => t.postOrder c.1) ++ [i]
termination_by t.size - i
decreasing_by
  have := c.2
  have := c.1.isLt
  omega

variable (t : ComponentTree)

/-- Whether there is a file at a place. -/
def isFileAt (i : Fin t.size) : Bool := (t.component i).isFile

/-- What a stack entry amounts to: all files from a component down, or the component alone. -/
def entryFiles : Fin t.size × Bool → List (Fin t.size)
  | (i, true) => t.visit i
  | (i, false) => (t.postOrder i).filter t.isFileAt

theorem visit_eq (i : Fin t.size) : t.visit i = [i].filter t.isFileAt := by
  rw [List.filter_cons, List.filter_nil]
  rfl

/-- Behind its children only the component itself is left. -/
theorem entryFiles_false (i : Fin t.size) :
    t.entryFiles (i, false) =
      (t.children i).flatMap (fun c => t.entryFiles (c.1, false)) ++ t.visit i := by
  simp only [entryFiles]
  rw [postOrder, List.filter_append, List.filter_flatMap, visit_eq]

/-- **Working off a stack, the walk meets what its entries amount to**, from the top down. -/
theorem walk_eq (stack : List (Fin t.size × Bool)) : t.walk stack = stack.flatMap t.entryFiles := by
  fun_induction walk t stack with
  | case1 => rfl
  | case2 i rest ih => rw [ih, List.flatMap_cons, entryFiles]
  | case3 i rest hleaf ih =>
    rw [ih, List.flatMap_cons, entryFiles_false, hleaf, List.flatMap_nil, List.nil_append]
  | case4 i rest hne ih =>
    rw [ih, List.flatMap_append, List.flatMap_map, List.flatMap_cons, List.flatMap_cons,
      entryFiles_false, List.append_assoc]
    rfl

/-- **The files come in post-order.** -/
theorem files_eq : t.files = (t.postOrder t.root).filter t.isFileAt := by
  rw [files, walk_eq, List.flatMap_singleton]
  rfl

/-- The files of a tree, in post-order. -/
def fileComponents : List Component :=
  ((t.postOrder t.root).map t.component).filter Component.isFile

/-- The last file with a key in post-order. -/
def lastFile (key : String) : Option (Fin t.size) :=
  ((t.postOrder t.root).filter fun i => t.isFileAt i && (t.component i).key == key).getLast?

/-- **Under each key the table has the place of the last file with that key.** -/
theorem getElem?_fileTable_eq_lastFile (key : String) : t.fileTable[key]? = t.lastFile key := by
  have hrows : t.fileTable[key]? = (t.files.filter fun i => (t.component i).key == key).getLast? :=
    (Keyed.getElem?_ofRows (fun i => (t.component i).key) id t.files key).trans
      (congrFun Option.map_id _)
  rw [hrows, files_eq, List.filter_filter, lastFile]
  simp only [Bool.and_comm]

/-- The last file with a key in post-order, as a component. -/
def fileNamed (key : String) : Option Component :=
  (t.fileComponents.filter fun c => c.key == key).getLast?

/-- **Under each key the table has the last file with that key in post-order.** -/
theorem getElem?_fileTable (key : String) :
    t.fileTable[key]?.map t.component = t.fileNamed key := by
  rw [fileNamed, getElem?_fileTable_eq_lastFile, lastFile, ← List.getLast?_map, fileComponents,
    List.filter_map, List.filter_map, List.filter_filter]
  refine congrArg (fun places : List (Fin t.size) => (places.map t.component).getLast?) ?_
  exact List.filter_congr fun i _ => Bool.and_comm _ _

end IssueNotice.ComponentTree
