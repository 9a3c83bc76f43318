import IssueNotice.Json.Document
import IssueNotice.Json.Reading
import Mathlib.Data.List.Basic
import Std.Data.String.ToNat

/-!
# A layout determines its document

Layouts are read from the front, and each part of one says where it ends: a quoted text at its
quote, since quotes inside are escaped; a list or an object at its bracket; a count in front of the
first character that is no digit. So where the layouts of two documents begin the same text, the
documents are the same, and so is what follows (`Document.layout_append_inj`).

For quoted texts this comes from reading them: `stringTail_quote` says that a string is read back as
it was quoted, whatever its characters.
-/

namespace IssueNotice.Json

/-! ## Quoted texts -/

/-- A character is quoted by a letter behind a backslash, by its digits, or as it is. -/
theorem quoteChar_cases (c : Char) :
    (∃ letter, simpleEscape? letter = some c ∧ quoteChar c = ['\\', letter]) ∨
      (c.toNat < 0x20 ∧ quoteChar c =
        ['\\', 'u', '0', '0', hexDigit (c.toNat / 16), hexDigit (c.toNat % 16)]) ∨
      (c ≠ '"' ∧ c ≠ '\\' ∧ ¬ c.toNat < 0x20 ∧ quoteChar c = [c]) := by
  by_cases h : c ∈ ['"', '\\', '\x08', '\x0c', '\n', '\r', '\t']
  · simp only [List.mem_cons, List.not_mem_nil, or_false] at h
    obtain rfl | rfl | rfl | rfl | rfl | rfl | rfl := h
    · exact .inl ⟨'"', rfl, rfl⟩
    · exact .inl ⟨'\\', rfl, rfl⟩
    · exact .inl ⟨'b', rfl, rfl⟩
    · exact .inl ⟨'f', rfl, rfl⟩
    · exact .inl ⟨'n', rfl, rfl⟩
    · exact .inl ⟨'r', rfl, rfl⟩
    · exact .inl ⟨'t', rfl, rfl⟩
  · simp only [List.mem_cons, List.not_mem_nil, or_false, not_or] at h
    have hlast : quoteChar c = if c.toNat < 0x20 then
        ['\\', 'u', '0', '0', hexDigit (c.toNat / 16), hexDigit (c.toNat % 16)] else [c] := by
      simp only [quoteChar, h, if_false]
    by_cases hcontrol : c.toNat < 0x20
    · exact .inr (.inl ⟨hcontrol, hlast.trans (if_pos hcontrol)⟩)
    · exact .inr (.inr ⟨h.1, h.2.1, hcontrol, hlast.trans (if_neg hcontrol)⟩)

theorem hexValue?_hexDigit : ∀ n < 16, Text.hexValue? (hexDigit n) = some n := by decide

/-- A control character is read back from its digits. -/
theorem hexValue4?_control {c : Char} (h : c.toNat < 0x20) :
    hexValue4? '0' '0' (hexDigit (c.toNat / 16)) (hexDigit (c.toNat % 16)) = some c.toNat := by
  have hzero : Text.hexValue? '0' = some 0 := by decide
  unfold hexValue4?
  rw [hzero, hexValue?_hexDigit _ (by omega), hexValue?_hexDigit _ (by omega)]
  simp only [Option.bind_eq_bind, Option.bind_some, Option.pure_def, Option.some.injEq]
  omega

section Reading

variable (read rest : List Char)

theorem stringChars_control {c : Char} (h : c.toNat < 0x20) :
    stringChars escape read ('\\' :: 'u' :: '0' :: '0' :: hexDigit (c.toNat / 16) ::
      hexDigit (c.toNat % 16) :: rest) = stringChars escape (c :: read) rest := by
  have hlow : ¬ 0xdc00 ≤ c.toNat := by omega
  have hhigh : ¬ 0xd800 ≤ c.toNat := by omega
  rw [stringChars]
  simp [escape, codePoint, hex4, hexValue4?_control h, hlow, hhigh, bind, Except.bind,
    Char.ofNat_toNat]

theorem stringChars_simpleEscape {letter c : Char} (h : simpleEscape? letter = some c) :
    stringChars escape read ('\\' :: letter :: rest) = stringChars escape (c :: read) rest := by
  have hletter : letter ≠ 'u' := by
    rintro rfl
    cases h
  rw [stringChars]
  simp [escape, hletter, h]

/-- **Each character is read back as it was quoted.** -/
theorem stringChars_quoteChar (c : Char) :
    stringChars escape read (quoteChar c ++ rest) = stringChars escape (c :: read) rest := by
  rcases quoteChar_cases c with ⟨letter, hletter, hquote⟩ | ⟨hcontrol, hquote⟩ |
    ⟨hmark, hslash, hcontrol, hquote⟩
  · rw [hquote]
    exact stringChars_simpleEscape read rest hletter
  · rw [hquote]
    exact stringChars_control read rest hcontrol
  · rw [hquote, List.singleton_append, stringChars, if_neg hmark, if_neg hslash, if_neg hcontrol]

theorem stringChars_quoted (cs : List Char) :
    stringChars escape read (cs.flatMap quoteChar ++ '"' :: rest) =
      .ok (cs.reverse ++ read, rest) := by
  induction cs generalizing read with
  | nil =>
    rw [List.flatMap_nil, List.nil_append, stringChars, if_pos rfl]
    rfl
  | cons c cs ih =>
    rw [List.flatMap_cons, List.append_assoc, stringChars_quoteChar, ih, List.reverse_cons,
      List.append_assoc, List.singleton_append]

end Reading

/-- **A quoted text is read back**, and what follows it is left. -/
theorem stringTail_quote (s : String) (rest : List Char) :
    stringTail ((quote s ++ rest).tail) = .ok (s, rest) := by
  have htail : (quote s ++ rest).tail = s.toList.flatMap quoteChar ++ '"' :: rest := by
    simp [quote]
  unfold stringTail
  rw [htail, stringChars_quoted]
  simp [Except.map]

/-- Where two quoted texts begin the same text, they are the same. -/
theorem quote_append_inj {s t : String} {as bs : List Char} (h : quote s ++ as = quote t ++ bs) :
    s = t ∧ as = bs := by
  have hread := stringTail_quote s as
  rw [h, stringTail_quote] at hread
  obtain ⟨rfl, rfl⟩ := Prod.mk.inj (Except.ok.inj hread)
  exact ⟨rfl, rfl⟩

/-! ## Counts -/

/-- The text does not go on with a digit. -/
def NoDigit (cs : List Char) : Prop := ∀ c ∈ cs.head?, c.isDigit = false

theorem digits_count {n : Nat} {c : Char} (h : c ∈ (toString n).toList) : c.isDigit = true := by
  rw [Nat.toString_eq_repr, Nat.toList_repr] at h
  exact Nat.isDigit_of_mem_toDigits (by decide) (by decide) h

theorem takeWhile_count (n : Nat) {as : List Char} (h : NoDigit as) :
    ((toString n).toList ++ as).takeWhile Char.isDigit = (toString n).toList := by
  have hrest : as.takeWhile Char.isDigit = [] := by
    cases as with
    | nil => rfl
    | cons a as => rw [List.takeWhile_cons_of_neg (by simp [h a rfl])]
  rw [List.takeWhile_append_of_pos fun c hc => digits_count hc, hrest, List.append_nil]

/-- Where two counts begin the same text, they are the same, as long as no digit follows. -/
theorem count_append_inj {m n : Nat} {as bs : List Char} (has : NoDigit as) (hbs : NoDigit bs)
    (h : (toString m).toList ++ as = (toString n).toList ++ bs) : m = n ∧ as = bs := by
  have hdigits : (toString m).toList = (toString n).toList := by
    rw [← takeWhile_count m has, h, takeWhile_count n hbs]
  refine ⟨Nat.repr_injective (String.toList_inj.mp hdigits), ?_⟩
  rw [hdigits] at h
  exact List.append_cancel_left h

/-! ## Documents -/

namespace Document

/-- What a document begins with; any digit counts as the first one. -/
def mark : Document → Char
  | text _ => '"'
  | count _ => '0'
  | list _ => '['
  | object _ => '\x7b'

theorem exists_layout_eq (level : Nat) (d : Document) :
    ∃ c cs, layout level d = c :: cs ∧ (if c.isDigit then '0' else c) = d.mark := by
  cases d with
  | text s => exact ⟨'"', _, by rw [layout, quote, List.cons_append], rfl⟩
  | count n =>
    cases hdigits : (toString n).toList with
    | nil =>
      rw [Nat.toString_eq_repr, Nat.toList_repr] at hdigits
      exact absurd hdigits Nat.toDigits_ne_nil
    | cons c cs =>
      refine ⟨c, cs, by rw [layout, hdigits], if_pos (digits_count (n := n) ?_)⟩
      rw [hdigits]
      exact List.mem_cons_self
  | list items => cases items <;> exact ⟨'[', _, by simp only [layout, List.cons_append]; rfl, rfl⟩
  | object fields =>
    cases fields <;> exact ⟨'\x7b', _, by simp only [layout, List.cons_append]; rfl, rfl⟩

theorem mark_eq {level : Nat} {d e : Document} {as bs : List Char}
    (h : layout level d ++ as = layout level e ++ bs) : d.mark = e.mark := by
  obtain ⟨c, cs, hd, hc⟩ := exists_layout_eq level d
  obtain ⟨c', cs', he, hc'⟩ := exists_layout_eq level e
  rw [hd, he, List.cons_append, List.cons_append] at h
  rw [← hc, ← hc', (List.cons.inj h).1]

theorem noDigit_items (level : Nat) (ds : List Document) (as : List Char) :
    NoDigit (layoutItems level ds ++ '\n' :: as) := by
  cases ds <;> simp [NoDigit, layoutItems]

theorem noDigit_fields (level : Nat) (fs : List (String × Document)) (as : List Char) :
    NoDigit (layoutFields level fs ++ '\n' :: as) := by
  cases fs <;> simp [NoDigit, layoutFields]

mutual

/-- **Where two laid out documents begin the same text, they are the same**, as long as no digit
follows. -/
theorem layout_append_inj (level : Nat) (d e : Document) {as bs : List Char} (has : NoDigit as)
    (hbs : NoDigit bs) (h : layout level d ++ as = layout level e ++ bs) : d = e ∧ as = bs := by
  match d, e, mark_eq h with
  | text s, text t, _ =>
    obtain ⟨rfl, hrest⟩ := quote_append_inj (by simpa only [layout] using h)
    exact ⟨rfl, hrest⟩
  | count m, count n, _ =>
    obtain ⟨rfl, hrest⟩ := count_append_inj has hbs (by simpa only [layout] using h)
    exact ⟨rfl, hrest⟩
  | list [], list [], _ => exact ⟨rfl, List.append_cancel_left h⟩
  | list [], list (e :: es), _ => simp [layout, lineBreak] at h
  | list (d :: ds), list [], _ => simp [layout, lineBreak] at h
  | list (d :: ds), list (e :: es), _ =>
    simp only [layout, lineBreak, List.cons_append, List.append_assoc, List.cons.injEq, true_and,
      List.append_cancel_left_eq] at h
    obtain ⟨rfl, hitems⟩ := layout_append_inj (level + 1) d e (noDigit_items _ ds _)
      (noDigit_items _ es _) h
    obtain ⟨rfl, hend⟩ := layoutItems_append_inj (level + 1) ds es hitems
    have hrest := List.append_cancel_left hend
    exact ⟨rfl, (List.cons.inj hrest).2⟩
  | object [], object [], _ => exact ⟨rfl, List.append_cancel_left h⟩
  | object [], object ((key, e) :: gs), _ => simp [layout, lineBreak] at h
  | object ((key, d) :: fs), object [], _ => simp [layout, lineBreak] at h
  | object ((key, d) :: fs), object ((key', e) :: gs), _ =>
    simp only [layout, lineBreak, List.cons_append, List.append_assoc, List.cons.injEq, true_and,
      List.append_cancel_left_eq] at h
    obtain ⟨rfl, hvalue⟩ := quote_append_inj h
    simp only [List.cons.injEq, true_and, List.nil_append] at hvalue
    obtain ⟨rfl, hfields⟩ := layout_append_inj (level + 1) d e (noDigit_fields _ fs _)
      (noDigit_fields _ gs _) hvalue
    obtain ⟨rfl, hend⟩ := layoutFields_append_inj (level + 1) fs gs hfields
    have hrest := List.append_cancel_left hend
    exact ⟨rfl, (List.cons.inj hrest).2⟩

theorem layoutItems_append_inj (level : Nat) (ds es : List Document) {as bs : List Char}
    (h : layoutItems level ds ++ '\n' :: as = layoutItems level es ++ '\n' :: bs) :
    ds = es ∧ as = bs := by
  match ds, es with
  | [], [] => exact ⟨rfl, (List.cons.inj h).2⟩
  | [], e :: es => simp [layoutItems] at h
  | d :: ds, [] => simp [layoutItems] at h
  | d :: ds, e :: es =>
    simp only [layoutItems, List.cons_append, List.append_assoc, List.cons.injEq, true_and,
      List.append_cancel_left_eq] at h
    obtain ⟨rfl, hitems⟩ := layout_append_inj level d e (noDigit_items level ds as)
      (noDigit_items level es bs) h
    obtain ⟨rfl, hrest⟩ := layoutItems_append_inj level ds es hitems
    exact ⟨rfl, hrest⟩

theorem layoutFields_append_inj (level : Nat) (fs gs : List (String × Document))
    {as bs : List Char}
    (h : layoutFields level fs ++ '\n' :: as = layoutFields level gs ++ '\n' :: bs) :
    fs = gs ∧ as = bs := by
  match fs, gs with
  | [], [] => exact ⟨rfl, (List.cons.inj h).2⟩
  | [], (key, e) :: gs => simp [layoutFields] at h
  | (key, d) :: fs, [] => simp [layoutFields] at h
  | (key, d) :: fs, (key', e) :: gs =>
    simp only [layoutFields, List.cons_append, List.append_assoc, List.cons.injEq, true_and,
      List.append_cancel_left_eq] at h
    obtain ⟨rfl, hvalue⟩ := quote_append_inj h
    simp only [List.cons.injEq, true_and, List.nil_append] at hvalue
    obtain ⟨rfl, hfields⟩ := layout_append_inj level d e (noDigit_fields level fs as)
      (noDigit_fields level gs bs) hvalue
    obtain ⟨rfl, hrest⟩ := layoutFields_append_inj level fs gs hfields
    exact ⟨rfl, hrest⟩

end

/-- **A document is determined by its layout.** -/
theorem layout_injective (level : Nat) : Function.Injective (layout level) := by
  intro d e h
  have hend : NoDigit [] := fun c hc => by cases hc
  exact (layout_append_inj level d e hend hend (by rw [h])).1

end Document

end IssueNotice.Json
