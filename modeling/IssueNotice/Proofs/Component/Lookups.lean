import IssueNotice.Proofs.Component.Growth

/-!
# Lookups in an index that is built when it is needed

`FileIndex.after` is an index after some lookups. `find_after` says that a lookup answers with the
last file of its key in post-order, whatever was looked up before; that the table is there behind
the first lookup and not before; and that no later lookup touches it.
-/

namespace IssueNotice

namespace FileIndex

variable {t : ComponentTree}

/-- The index after some keys were looked up, one after the other. -/
def after (x : FileIndex t) (keys : List String) : FileIndex t :=
  keys.foldl (fun x key => (x.find key).2) x

/-- An index with a table keeps it, whatever is looked up. -/
theorem after_built (table : Keyed (Fin t.size)) (keys : List String) :
    ({ table := some table } : FileIndex t).after keys = { table := some table } := by
  induction keys with
  | nil => rfl
  | cons key rest ih => exact ih

/-- **The first lookup fills the table** and no other touches it. -/
theorem after_empty (keys : List String) :
    ({} : FileIndex t).after keys = { table := if keys = [] then none else some t.fileTable } := by
  cases keys with
  | nil => rfl
  | cons key rest => exact after_built t.fileTable rest

theorem after_append (x : FileIndex t) (keys more : List String) :
    x.after (keys ++ more) = (x.after keys).after more :=
  List.foldl_append ..

/-- An index that was empty at first and has looked some keys up since. -/
def Used (x : FileIndex t) : Prop := ∃ before, x = ({} : FileIndex t).after before

theorem used_empty : ({} : FileIndex t).Used := ⟨[], rfl⟩

theorem Used.after {x : FileIndex t} (h : x.Used) (keys : List String) : (x.after keys).Used := by
  obtain ⟨before, rfl⟩ := h
  exact ⟨before ++ keys, (after_append ..).symm⟩

/-- **Whatever was looked up before, a lookup finds what the whole table has.** -/
theorem Used.find_fst {x : FileIndex t} (h : x.Used) (key : String) :
    (x.find key).1 = t.fileTable[key]? := by
  obtain ⟨before, rfl⟩ := h
  rw [after_empty]
  split <;> rfl

end FileIndex

namespace ComponentTree

variable {project : Component} {rows : List (Nat × Component)} {t : ComponentTree}

/-- **A key has no last file iff no file of the tree has it.** -/
theorem Grown.lastFile_eq_none (h : Grown project rows t) {key : String} :
    t.lastFile key = none ↔ ∀ i, (t.component i).isFile = true → (t.component i).key ≠ key := by
  unfold lastFile
  rw [List.getLast?_eq_none_iff, List.filter_eq_nil_iff]
  constructor
  · intro hnone i hfile hkey
    exact hnone i (h.mem_postOrder i) (by simp [isFileAt, hfile, hkey])
  · intro hnone i _ hi
    simp only [isFileAt, Bool.and_eq_true, beq_iff_eq] at hi
    exact hnone i hi.1 hi.2

theorem isFile_of_lastFile {key : String} {i : Fin t.size} (hi : t.lastFile key = some i) :
    (t.component i).isFile = true ∧ (t.component i).key = key := by
  have hmem := (List.mem_filter.mp (List.mem_of_getLast? hi)).2
  simpa only [isFileAt, Bool.and_eq_true, beq_iff_eq] using hmem

/-- **An index is transparent.** After any lookups, the next one answers with the last file of its
key in post-order, which is missing only if no file has the key. The table is filled by the first
lookup, whatever it finds, and no later one touches what a filled table holds. -/
theorem find_after (h : Grown project rows t) (before : List String) (key : String) :
    let x := ({} : FileIndex t).after before
    (x.find key).1 = t.lastFile key ∧
      ((x.find key).1 = none ↔
        ∀ i, (t.component i).isFile = true → (t.component i).key ≠ key) ∧
      (∀ i, (x.find key).1 = some i → (t.component i).isFile = true ∧ (t.component i).key = key) ∧
      (x.isBuilt = true ↔ before ≠ []) ∧ (x.find key).2.isBuilt = true ∧
      (∀ later, (x.find key).2.after later = (x.find key).2) ∧
      (x.isBuilt = true → (x.find key).2 = x) := by
  intro x
  have hx : x = { table := if before = [] then none else some t.fileTable } :=
    FileIndex.after_empty before
  have hfind : x.find key = (t.fileTable[key]?, { table := some t.fileTable }) := by
    rw [hx]
    split <;> rfl
  rw [hfind, getElem?_fileTable_eq_lastFile]
  refine ⟨rfl, h.lastFile_eq_none, fun i => isFile_of_lastFile, ?_, rfl,
    FileIndex.after_built t.fileTable, ?_⟩
  · rw [hx]
    by_cases hb : before = [] <;> simp [hb, FileIndex.isBuilt]
  · rw [hx]
    by_cases hb : before = [] <;> simp [hb, FileIndex.isBuilt]

/-- Of the two files with one key in the sample tree the later one is found, also behind a lookup
that found nothing. -/
theorem find_after_sample :
    Grown sampleProject sampleRows sampleTree ∧
      let x := ({} : FileIndex sampleTree).after ["app:src"]
      (x.find "app:Main.java").1.map Fin.val = some 3 ∧ x.isBuilt = true ∧
        (x.find "app:Main.java").2 = x := by
  refine ⟨grown_sample, ?_⟩
  intro x
  have h := find_after grown_sample ["app:src"] "app:Main.java"
  obtain ⟨hfound, -, -, hbuilt, -, -, hkept⟩ := h
  have hx : x.isBuilt = true := hbuilt.mpr (by simp)
  refine ⟨?_, hx, hkept hx⟩
  rw [hfound]
  cbv

end ComponentTree

end IssueNotice
