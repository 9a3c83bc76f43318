import IssueNotice.Analysis
import IssueNotice.Report
import Mathlib.Data.List.Forall2

/-!
# Reading words against their vocabularies

`Reads r words good` is what a reading that checks some words in order amounts to: it fails with the
first word that its vocabulary does not have, and where there is none it gives something `good`. A
word by itself is read so (`Reads.word`), and so are readings one after the other (`Reads.bind`) and
the readings of a list (`Reads.mapM`), each with its words behind those before it.
-/

namespace IssueNotice

/-- A text that is read against a vocabulary. -/
structure Word where
  vocabulary : Vocabulary
  text : String
  deriving Repr, DecidableEq

namespace Word

/-- Whether the vocabulary has the word. -/
def isKnown (w : Word) : Bool :=
  match w.vocabulary with
  | .ruleType => (RuleType.ofText w.text).isOk
  | .branchKind => (BranchKind.ofText w.text).isOk
  | .componentKind => (ComponentKind.ofText w.text).isOk
  | .noticeKind => (NoticeKind.ofText w.text).isOk
  | .channel => (Channel.ofText w.text).isOk
  | .reportFormat => (ReportFormat.ofText w.text).isOk

/-- What is reported about a word that the vocabulary does not have. -/
def unknown (w : Word) : UnknownWord := ⟨w.vocabulary, w.text⟩

/-- The first of some words that its vocabulary does not have. -/
def firstUnknown (words : List Word) : Option Word := words.find? fun w => !w.isKnown

theorem firstUnknown_append (ws vs : List Word) :
    firstUnknown (ws ++ vs) = (firstUnknown ws).or (firstUnknown vs) :=
  List.find?_append

theorem firstUnknown_eq_none {words : List Word} :
    firstUnknown words = none ↔ ∀ w ∈ words, w.isKnown = true := by
  unfold firstUnknown
  simp only [List.find?_eq_none, Bool.not_eq_true', Bool.not_eq_false]

/-- **The report quotes the word** as it was given. -/
theorem quoted_unknown (w : Word) :
    ∃ before after, w.unknown.message = before ++ w.text ++ after := by
  obtain ⟨v, text⟩ := w
  cases v with
  | ruleType => exact ⟨"Unknown rule type: ", "", String.append_empty.symm⟩
  | branchKind =>
    exact ⟨"Invalid branch type: ", ". Please specify 'long', 'short' or 'pull_request'", rfl⟩
  | componentKind => exact ⟨"Unknown component type: ", "", String.append_empty.symm⟩
  | noticeKind =>
    exact ⟨"Unknown notification kind: ",
      ". " ++ "Expected 'new-issues', 'my-new-issues' or 'issue-changes'", String.append_assoc⟩
  | channel =>
    exact ⟨"Invalid delivery channel: ", ". Valid values are: email, legacy", rfl⟩
  | reportFormat => exact ⟨"Invalid format: ", ". Please specify 'json' or 'markdown'", rfl⟩

end Word

variable {α β : Type}

/-- The readings of a list end well iff each of them does. -/
theorem mapM_eq_ok {ε : Type} {f : α → Except ε β} {xs : List α} {ys : List β} :
    xs.mapM f = .ok ys ↔ List.Forall₂ (fun x y => f x = .ok y) xs ys := by
  induction xs generalizing ys with
  | nil =>
    rw [List.forall₂_nil_left_iff]
    exact ⟨fun h => by cases h; rfl, fun h => by rw [h]; rfl⟩
  | cons x rest ih =>
    rw [List.mapM_cons, List.forall₂_cons_left_iff]
    cases hx : f x with
    | error e => exact ⟨fun h => (nomatch h), fun ⟨_, _, h, _⟩ => (nomatch h)⟩
    | ok y =>
      cases hrest : rest.mapM f with
      | error e =>
        refine ⟨fun h => (nomatch h), fun ⟨_, zs, _, hzs, _⟩ => ?_⟩
        rw [← ih, hrest] at hzs
        cases hzs
      | ok zs =>
        constructor
        · intro h
          cases h
          exact ⟨y, zs, rfl, ih.mp hrest, rfl⟩
        · rintro ⟨_, zs', ⟨⟩, hzs, rfl⟩
          rw [← ih, hrest] at hzs
          cases hzs
          rfl

/-- What reading some words in order amounts to: the first unknown one is reported, and where all
are known the result is `good`. -/
def Reads (r : Except UnknownWord α) (words : List Word) (good : α → Prop) : Prop :=
  match Word.firstUnknown words with
  | some w => r = .error w.unknown
  | none => ∃ a, r = .ok a ∧ good a

namespace Reads

theorem pure {a : α} {good : α → Prop} (h : good a) : Reads (Pure.pure a) [] good :=
  ⟨a, rfl, h⟩

/-- A text is read against its vocabulary, if the reading quotes what it refuses. -/
theorem word {v : Vocabulary} {parse : String → Except UnknownWord α}
    (hknown : ∀ s, Word.isKnown ⟨v, s⟩ = (parse s).isOk)
    (hquote : ∀ s w, parse s = .error w → w = ⟨v, s⟩) (s : String) :
    Reads (parse s) [⟨v, s⟩] fun a => parse s = .ok a := by
  unfold Reads Word.firstUnknown
  rw [List.find?_cons, hknown]
  cases h : parse s with
  | ok a => exact ⟨a, rfl, rfl⟩
  | error w => exact congrArg _ (hquote s w h)

/-- **One reading after another** reads the words of both. -/
theorem bind {r : Except UnknownWord α} {k : α → Except UnknownWord β} {ws vs : List Word}
    {good : α → Prop} {best : β → Prop} (hr : Reads r ws good)
    (hk : ∀ a, good a → Reads (k a) vs best) : Reads (r >>= k) (ws ++ vs) best := by
  unfold Reads at hr ⊢
  rw [Word.firstUnknown_append]
  cases hw : Word.firstUnknown ws with
  | some w =>
    rw [hw] at hr
    subst hr
    rfl
  | none =>
    rw [hw] at hr
    obtain ⟨a, rfl, ha⟩ := hr
    exact hk a ha

theorem mono {r : Except UnknownWord α} {ws : List Word} {good best : α → Prop}
    (hr : Reads r ws good) (h : ∀ a, good a → best a) : Reads r ws best := by
  unfold Reads at hr ⊢
  split
  · next w hw => rwa [hw] at hr
  · next hw =>
    rw [hw] at hr
    obtain ⟨a, ha, hgood⟩ := hr
    exact ⟨a, ha, h a hgood⟩

theorem map {r : Except UnknownWord α} {f : α → β} {ws : List Word} {good : α → Prop}
    {best : β → Prop} (hr : Reads r ws good) (hf : ∀ a, good a → best (f a)) :
    Reads (r >>= fun a => Pure.pure (f a)) ws best := by
  have h := hr.bind (k := fun a => Pure.pure (f a)) fun a ha => pure (hf a ha)
  rwa [List.append_nil] at h

/-- **The readings of a list** read the words of its elements in order. -/
theorem mapM {f : α → Except UnknownWord β} {words : α → List Word} {good : α → β → Prop}
    {xs : List α} (h : ∀ x ∈ xs, Reads (f x) (words x) (good x)) :
    Reads (xs.mapM f) (xs.flatMap words) (List.Forall₂ good xs) := by
  induction xs with
  | nil => exact pure .nil
  | cons x rest ih =>
    rw [List.mapM_cons, List.flatMap_cons]
    refine (h x List.mem_cons_self).bind fun b hb => ?_
    exact (ih fun y hy => h y (List.mem_cons_of_mem _ hy)).map fun bs hbs => .cons hb hbs

theorem of_none {r : Except UnknownWord α} {words : List Word} {good : α → Prop}
    (h : Reads r words good) (hnone : Word.firstUnknown words = none) : ∃ a, r = .ok a ∧ good a := by
  unfold Reads at h
  rwa [hnone] at h

theorem of_some {r : Except UnknownWord α} {words : List Word} {good : α → Prop}
    (h : Reads r words good) {w : Word} (hsome : Word.firstUnknown words = some w) :
    r = .error w.unknown := by
  unfold Reads at h
  rwa [hsome] at h

/-! ## The vocabularies of a fixture -/

theorem ruleType (s : String) :
    Reads (RuleType.ofText s) [⟨.ruleType, s⟩] fun t => RuleType.ofText s = .ok t := by
  refine word (fun _ => rfl) (fun s w h => ?_) s
  unfold RuleType.ofText at h
  split at h <;> cases h
  rfl

theorem branchKind (s : String) :
    Reads (BranchKind.ofText s) [⟨.branchKind, s⟩] fun k => BranchKind.ofText s = .ok k := by
  refine word (fun _ => rfl) (fun s w h => ?_) s
  unfold BranchKind.ofText at h
  split at h <;> cases h
  rfl

theorem componentKind (s : String) :
    Reads (ComponentKind.ofText s) [⟨.componentKind, s⟩] fun k => ComponentKind.ofText s = .ok k := by
  refine word (fun _ => rfl) (fun s w h => ?_) s
  unfold ComponentKind.ofText at h
  split at h <;> cases h
  rfl

theorem noticeKind (s : String) :
    Reads (NoticeKind.ofText s) [⟨.noticeKind, s⟩] fun k => NoticeKind.ofText s = .ok k := by
  refine word (fun _ => rfl) (fun s w h => ?_) s
  unfold NoticeKind.ofText at h
  split at h <;> cases h
  rfl

theorem channel (s : String) :
    Reads (Channel.ofText s) [⟨.channel, s⟩] fun c => Channel.ofText s = .ok c := by
  refine word (fun _ => rfl) (fun s w h => ?_) s
  unfold Channel.ofText at h
  split at h <;> cases h
  rfl

end Reads

end IssueNotice
