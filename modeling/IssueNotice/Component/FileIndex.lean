import IssueNotice.Component.Tree
import IssueNotice.Text.Keyed

/-!
# Files by key

Issues name the file they were raised on by its key. `ComponentTree.fileTable` holds the files of a
tree by key; where several share a key, the last in the order of `ComponentTree.files` counts.
`FileIndex` builds that table on its first lookup and keeps it.
-/

namespace IssueNotice

/-- The files of a tree by key; of several with one key the last counts. -/
def ComponentTree.fileTable (t : ComponentTree) : Keyed (Fin t.size) :=
  Keyed.ofEntries (t.files.map fun i => ((t.component i).key, i))

/-- A file table that is built when it is first needed. -/
structure FileIndex (t : ComponentTree) where
  table : Option (Keyed (Fin t.size)) := none

namespace FileIndex

variable {t : ComponentTree}

/-- Whether the table was built. -/
def isBuilt (x : FileIndex t) : Bool := x.table.isSome

/-- Looks up the file with a key, and hands back the index with its table built. -/
def find (x : FileIndex t) (key : String) : Option (Fin t.size) × FileIndex t :=
  let table := x.table.getD t.fileTable
  (table[key]?, { table := some table })

end FileIndex

end IssueNotice
