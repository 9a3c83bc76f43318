import IssueNotice.Proofs.Json.Layout
import IssueNotice.Proofs.Keyed
import IssueNotice.Report.Json
import Mathlib.Tactic.MkIffOfInductiveProp

/-!
# The JSON text of a report loses nothing

`Report.jsonText_eq_iff` says when two reports have the same JSON text: just when they agree on all
that is written about a run, the counters taken as a map in which the last one of a name counts, and
dates as they are written. A layout determines its document (`Json.Document.layout_injective`), so
only the fields of the documents are left to be compared; where a version or a pull request is left
out, this is seen from the name of the field that comes instead.
-/

namespace IssueNotice

theorem Run.Ending.word_injective : Function.Injective Run.Ending.word := by
  intro a b h
  cases a <;> cases b <;> first | rfl | exact absurd h (by decide)

namespace Report

open Json (Document)

/-- The value of the last counter with a name. -/
def lastCounter (counters : List (String × Nat)) (name : String) : Option Nat :=
  (counters.filter fun c => c.1 == name).getLast?.map Prod.snd

/-- Two reports say the same of a project. -/
@[mk_iff]
structure SameProject (p q : ReportProject) : Prop where
  key : p.key = q.key
  name : p.name = q.name
  version : p.version = q.version
  branch : p.branch = q.branch
  pullRequest : p.pullRequest = q.pullRequest
  analysisDate : p.analysisDate.text = q.analysisDate.text

/-- Two reports say the same. -/
@[mk_iff]
structure SameContent (r s : Report) : Prop where
  runId : r.runId = s.runId
  generatedAt : r.generatedAt.text = s.generatedAt.text
  project : SameProject r.project s.project
  ending : r.ending = s.ending
  /-- Under each name, the last counter counts. -/
  counters : ∀ name, lastCounter r.counters name = lastCounter s.counters name
  deliveries : r.deliveries = s.deliveries

/-! ## The parts of a document -/

theorem ofEntries_eq_iff {cs ds : List (String × Nat)} :
    Keyed.ofEntries cs = Keyed.ofEntries ds ↔
      ∀ name, lastCounter cs name = lastCounter ds name := by
  unfold lastCounter
  simp only [← Keyed.getElem?_ofEntries]
  exact ⟨fun h _ => by rw [h], fun h => Std.ExtTreeMap.ext_getElem? h⟩

theorem counterFields_eq_iff {cs ds : List (String × Nat)} :
    (Keyed.ofEntries cs).toList.map (fun c => (c.1, Document.count c.2)) =
        (Keyed.ofEntries ds).toList.map (fun c => (c.1, Document.count c.2)) ↔
      ∀ name, lastCounter cs name = lastCounter ds name := by
  have hfield : Function.Injective fun c : String × Nat => (c.1, Document.count c.2) := by
    rintro ⟨name, n⟩ ⟨name', n'⟩ h
    cases h
    rfl
  rw [hfield.list_map.eq_iff, ← ofEntries_eq_iff]
  exact ⟨fun h => Std.ExtTreeMap.ext_toList (.of_eq h), congrArg _⟩

theorem deliveryDocument_injective : Function.Injective deliveryDocument := by
  rintro ⟨channel, kind, subject, recipients⟩ ⟨channel', kind', subject', recipients'⟩ h
  have htext : Function.Injective Document.text := fun _ _ ht => Document.text.inj ht
  simp only [deliveryDocument, Document.object.injEq, List.cons.injEq, Prod.mk.injEq, true_and,
    Document.text.injEq, Document.list.injEq, and_true, htext.list_map.eq_iff] at h
  obtain ⟨rfl, rfl, rfl, rfl⟩ := h
  rfl

/-- **A field that may be left out is told from the next one by its name.** -/
theorem optionalField_append_eq_iff {key next : String} (hne : next ≠ key) {v w : Option String}
    {d e : Document} {fs gs : List (String × Document)} :
    optionalField key v ++ (next, d) :: fs = optionalField key w ++ (next, e) :: gs ↔
      v = w ∧ d = e ∧ fs = gs := by
  cases v <;> cases w <;> simp [optionalField, hne, hne.symm]

theorem projectDocument_eq_iff {p q : ReportProject} :
    projectDocument p = projectDocument q ↔ SameProject p q := by
  have hversion : "branch" ≠ "version" := by decide
  have hpull : "analysisDate" ≠ "pullRequest" := by decide
  unfold projectDocument
  simp only [List.append_assoc, List.cons_append, List.nil_append, Document.object.injEq,
    List.cons.injEq, Prod.mk.injEq, true_and, Document.text.injEq,
    optionalField_append_eq_iff hversion, optionalField_append_eq_iff hpull, and_true,
    sameProject_iff]

theorem document_eq_iff {r s : Report} : r.document = s.document ↔ SameContent r s := by
  unfold document
  simp only [Document.object.injEq, List.cons.injEq, Prod.mk.injEq, true_and, Document.text.injEq,
    Document.list.injEq, and_true, projectDocument_eq_iff, counterFields_eq_iff,
    Run.Ending.word_injective.eq_iff, deliveryDocument_injective.list_map.eq_iff, sameContent_iff]

/-- **The JSON text of a report loses nothing.** Two reports have the same text iff they say the
same. -/
theorem jsonText_eq_iff {r s : Report} : r.jsonText = s.jsonText ↔ SameContent r s := by
  unfold jsonText
  rw [String.ofList_inj, List.append_left_inj, (Document.layout_injective 0).eq_iff,
    document_eq_iff]

end Report

end IssueNotice
