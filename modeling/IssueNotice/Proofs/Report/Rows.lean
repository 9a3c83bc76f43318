import IssueNotice.Command
import IssueNotice.Proofs.Run.Store
import IssueNotice.Total

/-!
# Rows of the deliveries table

How Markdown reads the row of a delivery. `Markdown.lines` cuts a text into lines, which end at a
line feed, at a carriage return or at both together, and `Markdown.pieces` cuts a line at its
separating pipes, those behind an even number of backslashes.

A row has the cells that it was made of iff each is `Markdown.Plain`, without line ends and
separating pipes (`Markdown.isRow_rowChars_iff`). `Report.cell` puts one backslash in front of each
pipe and writes each line feed as a blank. That is not enough for every text: a carriage return
stays a line end, and a backslash in front of a pipe makes up an even number together with the one
that is put between them, so that the pipe separates. `Report.isRow_deliveryRow_iff` says that these
are the only two ways in which a delivery can break the table: its row is one line with four cells
iff its texts are all `Markdown.Tame`.
-/

namespace IssueNotice

namespace Markdown

/-! ## Lines and cells -/

/-- A character in front of the first part of a text that is cut. -/
def onFirst (c : Char) : List (List Char) → List (List Char)
  | [] => [[c]]
  | first :: rest => (c :: first) :: rest

/-- The lines of a text, which end at a line feed, at a carriage return, or at both together. -/
def lines : List Char → List (List Char)
  | [] => []
  | c :: cs =>
    if c = '\r' ∧ cs.head? = some '\n' then lines cs
    else if c = '\n' ∨ c = '\r' then [] :: lines cs
    else onFirst c (lines cs)

/-- The number of backslashes up to a character, where `n` of them stand right before it. -/
def backslashesTo (n : Nat) (c : Char) : Nat := if c = '\\' then n + 1 else 0

/-- The number of backslashes at the end of a text, where `n` of them stand right before it. -/
def backslashesAfter (n : Nat) (cs : List Char) : Nat := cs.foldl backslashesTo n

/-- A line cut at its pipes, but for those behind an odd number of backslashes; `n` of them stand
right before the line. -/
def pieces (n : Nat) : List Char → List (List Char)
  | [] => [[]]
  | c :: cs =>
    if c = '|' ∧ n % 2 = 0 then [] :: pieces 0 cs
    else onFirst c (pieces (backslashesTo n c) cs)

/-- The text is one line, and the line has a number of cells, each between two separating pipes. -/
def IsRow (cells : Nat) (text : List Char) : Prop :=
  ∃ line inner, lines text = [line] ∧ pieces 0 line = [] :: (inner ++ [[]]) ∧ inner.length = cells

/-- The text has no carriage return, and no pipe behind an odd number of backslashes. -/
structure Tame (cs : List Char) : Prop where
  noReturn : '\r' ∉ cs
  evenly : ∀ before after, cs = before ++ '|' :: after → backslashesAfter 0 before % 2 = 0

/-! ## When a text is one line -/

theorem length_onFirst (c : Char) (parts : List (List Char)) :
    (onFirst c parts).length = max 1 parts.length := by
  cases parts with
  | nil => rfl
  | cons first rest => simp [onFirst]

theorem length_lines_pos {cs : List Char} (h : cs ≠ []) : 0 < (lines cs).length := by
  induction cs with
  | nil => exact absurd rfl h
  | cons c cs ih =>
    unfold lines
    split
    · next hboth => exact ih fun hnil => by simp [hnil] at hboth
    · split
      · exact Nat.succ_pos _
      · rw [length_onFirst]
        omega

theorem length_lines_append (before after : List Char) :
    (lines after).length ≤ (lines (before ++ after)).length := by
  induction before with
  | nil => exact Nat.le_refl _
  | cons c cs ih =>
    rw [List.cons_append, lines]
    split
    · exact ih
    · split
      · exact Nat.le_succ_of_le ih
      · rw [length_onFirst]
        omega

/-- Whatever follows a line end, with the line feed that may belong to it, is on another line. -/
theorem two_le_length_lines {x : Char} {cs : List Char} (hx : x = '\n' ∨ x = '\r')
    (h : cs ≠ []) : 2 ≤ (lines (x :: (cs ++ ['\n']))).length := by
  obtain ⟨c, rest, rfl⟩ := List.exists_cons_of_ne_nil h
  have hpos : 0 < (lines (rest ++ ['\n'])).length := length_lines_pos (by simp)
  have hall : 0 < (lines (c :: rest ++ ['\n'])).length := length_lines_pos (by simp)
  by_cases hboth : x = '\r' ∧ c = '\n'
  · obtain ⟨rfl, rfl⟩ := hboth
    rw [lines, if_pos ⟨rfl, rfl⟩, List.cons_append, lines, if_neg (by simp), if_pos (.inl rfl),
      List.length_cons]
    omega
  · rw [lines, if_neg (by simpa using hboth), if_pos hx, List.length_cons]
    omega

theorem lines_of_unbroken {cs : List Char} (h : ∀ c ∈ cs, c ≠ '\n' ∧ c ≠ '\r') :
    lines (cs ++ ['\n']) = [cs] := by
  induction cs with
  | nil => rfl
  | cons c cs ih =>
    obtain ⟨hfeed, hreturn⟩ := h c List.mem_cons_self
    rw [List.cons_append, lines, if_neg (by simp [hreturn]), if_neg (by simp [hfeed, hreturn]),
      ih fun d hd => h d (List.mem_cons_of_mem c hd)]
    rfl

/-! ## Separating pipes -/

/-- The number of pipes behind a number of backslashes of one parity; the separating ones are those
of parity 0. -/
def pipes (parity n : Nat) : List Char → Nat
  | [] => 0
  | c :: cs => (if c = '|' ∧ n % 2 = parity then 1 else 0) + pipes parity (backslashesTo n c) cs

theorem pipes_append (parity n : Nat) (as bs : List Char) :
    pipes parity n (as ++ bs) = pipes parity n as + pipes parity (backslashesAfter n as) bs := by
  induction as generalizing n with
  | nil => simp [pipes, backslashesAfter]
  | cons a as ih =>
    rw [List.cons_append, pipes, ih, pipes, Nat.add_assoc]
    rfl

/-- Behind a blank, what is in front does not matter. -/
theorem pipes_blank (parity n : Nat) (cs : List Char) :
    pipes parity n (' ' :: cs) = pipes parity 0 cs := Nat.zero_add _

theorem backslashesAfter_concat (n : Nat) (cs : List Char) (c : Char) :
    backslashesAfter n (cs ++ [c]) = backslashesTo (backslashesAfter n cs) c := by
  unfold backslashesAfter
  rw [List.foldl_append, List.foldl_cons, List.foldl_nil]

theorem length_pieces (n : Nat) (cs : List Char) :
    (pieces n cs).length = pipes 0 n cs + 1 := by
  induction cs generalizing n with
  | nil => rfl
  | cons c cs ih =>
    unfold pieces pipes
    split
    · next h =>
      rw [List.length_cons, ih, h.1]
      simp only [backslashesTo]
      rw [if_neg (by decide)]
      omega
    · rw [length_onFirst, ih]
      omega

/-- **A text without separating pipes stays in one piece**, with the first piece of what follows. -/
theorem pieces_append {n : Nat} {as bs first : List Char} {rest : List (List Char)}
    (h : pipes 0 n as = 0) (hrest : pieces (backslashesAfter n as) bs = first :: rest) :
    pieces n (as ++ bs) = (as ++ first) :: rest := by
  induction as generalizing n with
  | nil => exact hrest
  | cons a as ih =>
    rw [pipes, Nat.add_eq_zero_iff] at h
    have hno : ¬ (a = '|' ∧ n % 2 = 0) := fun hsep => by
      rw [if_pos hsep] at h
      exact absurd h.1 (by decide)
    rw [List.cons_append, pieces, if_neg hno, ih h.2 hrest]
    rfl

/-! ## Rows of given cells -/

/-- Without line ends and separating pipes. -/
def Plain (cs : List Char) : Prop := '\n' ∉ cs ∧ '\r' ∉ cs ∧ pipes 0 0 cs = 0

instance (cs : List Char) : Decidable (Plain cs) :=
  inferInstanceAs (Decidable ('\n' ∉ cs ∧ '\r' ∉ cs ∧ pipes 0 0 cs = 0))

/-- A row of some cells, without the line feed at its end. -/
def rowChars : List (List Char) → List Char
  | [] => ['|']
  | c :: rest => '|' :: ' ' :: (c ++ [' ']) ++ rowChars rest

theorem not_mem_rowChars_iff {x : Char} (hx : x = '\n' ∨ x = '\r') {cells : List (List Char)} :
    x ∉ rowChars cells ↔ ∀ c ∈ cells, x ∉ c := by
  have hplain : x ≠ '|' ∧ x ≠ ' ' := by
    rcases hx with rfl | rfl <;> decide
  induction cells with
  | nil => simp [rowChars, hplain]
  | cons c rest ih => simp [rowChars, hplain, ih]

theorem exists_rowChars_eq (cells : List (List Char)) :
    ∃ front, rowChars cells = front ++ ['|'] := by
  induction cells with
  | nil => exact ⟨[], rfl⟩
  | cons c rest ih =>
    obtain ⟨front, hfront⟩ := ih
    exact ⟨'|' :: ' ' :: (c ++ [' ']) ++ front, by rw [rowChars, hfront, List.append_assoc]⟩

/-- No backslash stands at the end of a cell, since a blank does. -/
theorem backslashesAfter_cell (c : List Char) : backslashesAfter 0 (' ' :: (c ++ [' '])) = 0 := by
  rw [← List.cons_append, backslashesAfter_concat]
  rfl

theorem pipes_cell (c : List Char) : pipes 0 0 (' ' :: (c ++ [' '])) = pipes 0 0 c := by
  rw [pipes_blank, pipes_append, pipes_blank]
  rfl

theorem pipes_rowChars (cells : List (List Char)) :
    pipes 0 0 (rowChars cells) = total (cells.map (pipes 0 0)) + cells.length + 1 := by
  induction cells with
  | nil => rfl
  | cons c rest ih =>
    have hpipe : pipes 0 0 (rowChars (c :: rest)) =
        1 + pipes 0 0 (' ' :: (c ++ [' ']) ++ rowChars rest) := rfl
    rw [hpipe, pipes_append, pipes_cell, backslashesAfter_cell, ih, List.map_cons,
      total_cons, List.length_cons]
    omega

theorem pieces_rowChars {cells : List (List Char)} (h : ∀ c ∈ cells, pipes 0 0 c = 0) :
    pieces 0 (rowChars cells) = [] :: (cells.map (fun c => ' ' :: (c ++ [' '])) ++ [[]]) := by
  induction cells with
  | nil => rfl
  | cons c rest ih =>
    have hpipe : pieces 0 (rowChars (c :: rest)) =
        [] :: pieces 0 (' ' :: (c ++ [' ']) ++ rowChars rest) := rfl
    have hcell : pipes 0 0 (' ' :: (c ++ [' '])) = 0 :=
      (pipes_cell c).trans (h c List.mem_cons_self)
    have hrest := ih fun d hd => h d (List.mem_cons_of_mem c hd)
    rw [← backslashesAfter_cell c] at hrest
    rw [hpipe, pieces_append hcell hrest, List.append_nil]
    rfl

/-- A row on one line is without line ends. -/
theorem not_mem_rowChars_of_lines {x : Char} (hx : x = '\n' ∨ x = '\r') {cells : List (List Char)}
    {line : List Char} (h : lines (rowChars cells ++ ['\n']) = [line]) : x ∉ rowChars cells := by
  intro hmem
  obtain ⟨before, after, hsplit⟩ := List.append_of_mem hmem
  have hafter : after ≠ [] := by
    rintro rfl
    obtain ⟨front, hfront⟩ := exists_rowChars_eq cells
    have hlast : some x = some '|' := by
      rw [← List.getLast?_concat, ← hsplit, hfront, List.getLast?_concat]
    obtain rfl := Option.some.inj hlast
    exact absurd hx (by decide)
  have hmore := length_lines_append before (x :: (after ++ ['\n']))
  rw [← List.cons_append, ← List.append_assoc, ← hsplit, h] at hmore
  exact Nat.not_succ_le_self 1 (Nat.le_trans (two_le_length_lines hx hafter) hmore)

theorem lines_rowChars {cells : List (List Char)} (hfeed : '\n' ∉ rowChars cells)
    (hreturn : '\r' ∉ rowChars cells) : lines (rowChars cells ++ ['\n']) = [rowChars cells] :=
  lines_of_unbroken fun _ hx => ⟨ne_of_mem_of_not_mem hx hfeed, ne_of_mem_of_not_mem hx hreturn⟩

/-- **A row has the cells that it was made of iff they are all plain.** -/
theorem isRow_rowChars_iff {cells : List (List Char)} :
    IsRow cells.length (rowChars cells ++ ['\n']) ↔ ∀ c ∈ cells, Plain c := by
  constructor
  · rintro ⟨line, inner, hlines, hpieces, hlength⟩ c hc
    have hfeed := not_mem_rowChars_of_lines (.inl rfl) hlines
    have hreturn := not_mem_rowChars_of_lines (.inr rfl) hlines
    obtain rfl : rowChars cells = line :=
      List.singleton_inj.mp ((lines_rowChars hfeed hreturn).symm.trans hlines)
    have hcount := length_pieces 0 (rowChars cells)
    rw [hpieces, pipes_rowChars, List.length_cons, List.length_append, hlength] at hcount
    have hnone : total (cells.map (pipes 0 0)) = 0 := by
      simp only [List.length_cons, List.length_nil] at hcount
      omega
    have hle : pipes 0 0 c ≤ total (cells.map (pipes 0 0)) :=
      le_total_of_mem (List.mem_map_of_mem hc)
    exact ⟨(not_mem_rowChars_iff (.inl rfl)).mp hfeed c hc,
      (not_mem_rowChars_iff (.inr rfl)).mp hreturn c hc, by omega⟩
  · intro h
    have hfeed := (not_mem_rowChars_iff (.inl rfl)).mpr fun c hc => (h c hc).1
    have hreturn := (not_mem_rowChars_iff (.inr rfl)).mpr fun c hc => (h c hc).2.1
    exact ⟨rowChars cells, _, lines_rowChars hfeed hreturn,
      pieces_rowChars fun c hc => (h c hc).2.2, List.length_map _⟩

/-! ## Escaped texts -/

/-- **In an escaped text just those pipes separate that stood behind an odd number of
backslashes.** -/
theorem pipes_cellChars (n : Nat) (cs : List Char) :
    pipes 0 n (Report.cellChars cs) = pipes 1 n cs := by
  unfold Report.cellChars
  induction cs generalizing n with
  | nil => rfl
  | cons c cs ih =>
    rw [List.flatMap_cons, pipes_append, pipes]
    by_cases hpipe : c = '|'
    · subst hpipe
      have hone : pipes 0 n ['\\', '|'] = if n % 2 = 1 then 1 else 0 := by
        have hparity : (n + 1) % 2 = 0 ↔ n % 2 = 1 := by omega
        simp [pipes, backslashesTo, hparity]
      rw [if_pos rfl, hone]
      simp only [true_and]
      exact congrArg _ (ih _)
    · by_cases hfeed : c = '\n'
      · subst hfeed
        exact congrArg _ (ih _)
      · rw [if_neg hpipe, if_neg hfeed, if_neg fun h => hpipe h.1]
        have hone : pipes 0 n [c] = 0 := by simp [pipes, hpipe]
        rw [hone]
        exact congrArg _ (ih _)

theorem pipes_eq_zero_iff {n : Nat} {cs : List Char} : pipes 1 n cs = 0 ↔
    ∀ before after, cs = before ++ '|' :: after → backslashesAfter n before % 2 = 0 := by
  induction cs generalizing n with
  | nil => simp [pipes]
  | cons c cs ih =>
    rw [pipes, Nat.add_eq_zero_iff, ih]
    constructor
    · rintro ⟨hhere, hlater⟩ before after hsplit
      cases before with
      | nil =>
        obtain ⟨rfl, -⟩ := List.cons.inj hsplit
        simpa [backslashesAfter] using hhere
      | cons b before =>
        obtain ⟨rfl, hrest⟩ := List.cons.inj hsplit
        exact hlater before after hrest
    · intro h
      have hhere : ¬ (c = '|' ∧ n % 2 = 1) := by
        rintro ⟨rfl, hodd⟩
        have heven : n % 2 = 0 := h [] cs rfl
        omega
      exact ⟨if_neg hhere, fun before after hrest =>
        h (c :: before) after (by rw [hrest, List.cons_append])⟩

theorem not_mem_feed_cellChars (cs : List Char) : '\n' ∉ Report.cellChars cs := by
  unfold Report.cellChars
  simp only [List.mem_flatMap, not_exists, not_and]
  intro c _
  split
  · decide
  · split <;> simp_all [eq_comm]

theorem mem_return_cellChars {cs : List Char} : '\r' ∈ Report.cellChars cs ↔ '\r' ∈ cs := by
  unfold Report.cellChars
  rw [List.mem_flatMap]
  constructor
  · rintro ⟨c, hc, hmem⟩
    split at hmem
    · exact absurd hmem (by decide)
    · split at hmem
      · exact absurd hmem (by decide)
      · exact List.mem_singleton.mp hmem ▸ hc
  · exact fun h => ⟨'\r', h, by decide⟩

theorem tame_iff {cs : List Char} : Tame cs ↔ '\r' ∉ cs ∧ pipes 1 0 cs = 0 := by
  rw [pipes_eq_zero_iff]
  exact ⟨fun h => ⟨h.noReturn, h.evenly⟩, fun h => ⟨h.1, h.2⟩⟩

instance (cs : List Char) : Decidable (Tame cs) := decidable_of_iff _ tame_iff.symm

/-- **An escaped text is plain iff the text is tame.** -/
theorem plain_cellChars_iff {cs : List Char} : Plain (Report.cellChars cs) ↔ Tame cs := by
  rw [Plain, mem_return_cellChars, pipes_cellChars, tame_iff]
  exact and_iff_right (not_mem_feed_cellChars cs)

/-- No backslash gets past a comma. -/
theorem tame_comma_iff {as bs : List Char} :
    Tame (as ++ [',', ' '] ++ bs) ↔ Tame as ∧ Tame bs := by
  have hcomma : ∀ n, pipes 1 n ([',', ' '] ++ bs) = pipes 1 0 bs := fun n => by
    change 0 + (0 + pipes 1 0 bs) = _
    rw [Nat.zero_add, Nat.zero_add]
  have hreturn : '\r' ∉ as ++ ([',', ' '] ++ bs) ↔ '\r' ∉ as ∧ '\r' ∉ bs := by simp
  rw [tame_iff, tame_iff, tame_iff, List.append_assoc, pipes_append, hcomma, hreturn,
    Nat.add_eq_zero_iff, and_and_and_comm]

theorem tame_intercalate_iff {texts : List (List Char)} :
    Tame ([',', ' '].intercalate texts) ↔ ∀ cs ∈ texts, Tame cs := by
  induction texts with
  | nil => exact iff_of_true (by decide) (by simp)
  | cons cs rest ih =>
    cases rest with
    | nil => simp
    | cons ds rest =>
      rw [List.intercalate_cons_cons, tame_comma_iff, ih]
      exact List.forall_mem_cons.symm

end Markdown

/-! ## Rows of deliveries -/

namespace Report

open Markdown

theorem toList_deliveryRow (d : ReportDelivery) : (deliveryRow d).toList =
    rowChars [d.channel.toList, d.kind.toList, cellChars d.subject.toList,
      cellChars ([',', ' '].intercalate (d.recipients.map String.toList))] ++ ['\n'] := by
  simp [deliveryRow, rowChars, cell, toString]

theorem plain_channel (c : Channel) : Plain c.word.toList := by
  cases c <;> decide

theorem plain_kind (k : NoticeKind) : Plain k.word.toList := by
  cases k <;> decide

/-- **The row of a delivery has its four cells iff its texts are tame.** -/
theorem isRow_ofDelivery_iff (d : Delivery) : IsRow 4 (deliveryRow (ofDelivery d)).toList ↔
    Tame d.subject.toList ∧ ∀ login ∈ d.recipients, Tame login.toList := by
  rw [toList_deliveryRow]
  refine isRow_rowChars_iff.trans ?_
  simp only [List.forall_mem_cons, List.not_mem_nil, false_imp_iff, implies_true, and_true,
    ofDelivery, plain_channel, plain_kind, true_and, plain_cellChars_iff, tame_intercalate_iff,
    List.forall_mem_map]

/-- **When a delivery breaks the table.** In the report of a run, the row of a delivery is one line
with four cells iff neither its subject nor the login of a recipient has a carriage return, or a
pipe behind an odd number of backslashes. -/
theorem isRow_deliveryRow_iff {runId : String} {generatedAt : Instant} {request : Run.Request}
    {response : Run.Response} {deliveries : List Delivery} {d : ReportDelivery}
    (h : d ∈ (ofRun runId generatedAt request response deliveries).deliveries) :
    IsRow 4 (deliveryRow d).toList ↔
      Tame d.subject.toList ∧ ∀ login ∈ d.recipients, Tame login.toList := by
  obtain ⟨delivery, -, rfl⟩ := List.mem_map.mp h
  exact isRow_ofDelivery_iff delivery

/-- A notice of one change, under a rule with some name. -/
def sampleDelivery (ruleName : String) : Delivery where
  channel := .email
  kind := .issueChanges
  subject := s!"App: issue old changed ({ruleName})"
  recipients := ["ada"]

theorem isRow_deliveryRow_sample :
    let d := ofDelivery (sampleDelivery "tabs | blanks")
    d ∈ (ofRun "first" (Run.sampleDate 0) Run.sampleRequest ⟨.completed, {}⟩
        [sampleDelivery "tabs | blanks"]).deliveries ∧
      Tame d.subject.toList ∧ IsRow 4 (deliveryRow d).toList := by
  intro d
  have hmem : d ∈ (ofRun "first" (Run.sampleDate 0) Run.sampleRequest ⟨.completed, {}⟩
      [sampleDelivery "tabs | blanks"]).deliveries := List.mem_singleton.mpr rfl
  have htame : Tame d.subject.toList ∧ ∀ login ∈ d.recipients, Tame login.toList := by decide
  exact ⟨hmem, htame.1, (isRow_deliveryRow_iff hmem).mpr htame⟩

end Report

/-- A fixture with one changed issue, under a rule with some name. -/
def changedFixture (ruleName : String) : Fixture where
  request := Run.sampleRequest
  rules := [⟨"naming", ruleName⟩]
  users := []
  subscriptions := [⟨"ada", .email, [.issueChanges]⟩]
  issues := Run.sampleIssues.take 1

theorem deliveries_changedFixture : ∀ ruleName ∈ ["no \\| here", "tabs\rblanks"],
    ((changedFixture ruleName).replay "first" (Run.sampleDate 0)).report.map Report.deliveries =
      .ok [Report.ofDelivery (Report.sampleDelivery ruleName)] := by
  decide +kernel

/-- The row of a delivery in the report is not one line with four cells. -/
def Report.BreaksTable (r : Report) : Prop :=
  ∃ d ∈ r.deliveries, ¬ Markdown.IsRow 4 (deliveryRow d).toList

theorem breaksTable_of_not_tame {f : Fixture} {d : Delivery}
    (hrun : (f.replay "first" (Run.sampleDate 0)).report.map Report.deliveries =
      .ok [Report.ofDelivery d])
    (h : ¬ Markdown.Tame d.subject.toList) :
    ∃ report, (f.replay "first" (Run.sampleDate 0)).report = .ok report ∧ report.BreaksTable := by
  cases hreport : (f.replay "first" (Run.sampleDate 0)).report with
  | error e =>
    rw [hreport] at hrun
    cases hrun
  | ok report =>
    rw [hreport] at hrun
    have hdeliveries := Except.ok.inj hrun
    refine ⟨report, rfl, Report.ofDelivery d, ?_, fun hrow => ?_⟩
    · rw [hdeliveries]
      exact List.mem_singleton.mpr rfl
    · exact h ((Report.isRow_ofDelivery_iff d).mp hrow).1

/-- A backslash in front of a pipe, or a carriage return, in the name of a rule breaks the table. -/
theorem breaksTable_changedFixture :
    (∃ report, ((changedFixture "no \\| here").replay "first" (Run.sampleDate 0)).report =
        .ok report ∧ report.BreaksTable) ∧
      ∃ report, ((changedFixture "tabs\rblanks").replay "first" (Run.sampleDate 0)).report =
        .ok report ∧ report.BreaksTable :=
  ⟨breaksTable_of_not_tame (deliveries_changedFixture _ (by decide)) (by decide),
    breaksTable_of_not_tame (deliveries_changedFixture _ (by decide)) (by decide)⟩

end IssueNotice
