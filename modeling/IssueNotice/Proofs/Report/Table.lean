import IssueNotice.Proofs.Report.Rows

/-!
# Reading the deliveries table back

A reader who knows how the table was written gets its texts back, whatever they are. It reads line
by line, cuts each line at the pipes that no backslash stands right before (`Markdown.cut`), takes
off the blank at each end of a cell (`Markdown.unpad`) and puts a pipe in place of each backslash
with a pipe behind it (`Markdown.unescape`).

This is not how Markdown reads the table, see `Markdown.pieces`: a backslash in front of a pipe in a
subject makes Markdown see one more cell, and not this reader, for whom any pipe behind a backslash
belongs to a text. In an escaped text every pipe is one of these (`Markdown.cut_cellChars`), and
leaving out the backslash in front of each undoes the escape, but for line feeds, which became
blanks (`Markdown.unescape_cellChars`). `Report.deliverySection_readsBack` puts both together for
the whole section.
-/

namespace IssueNotice

namespace Markdown

/-! ## The reader -/

/-- A line cut at its pipes, but for those right behind a backslash; `escaped` says whether one
stands right before the line. -/
def cut (escaped : Bool) : List Char → List (List Char)
  | [] => [[]]
  | c :: cs =>
    if c = '|' ∧ escaped = false then [] :: cut false cs
    else onFirst c (cut (c == '\\') cs)

/-- A text with a pipe in place of each backslash that has a pipe right behind it. -/
def unescape : List Char → List Char
  | [] => []
  | c :: cs =>
    if c = '\\' ∧ cs.head? = some '|' then unescape cs
    else c :: unescape cs

/-- A text without the blanks at its two ends, if there is one at each. -/
def unpad : List Char → Option (List Char)
  | ' ' :: cs => if cs.getLast? = some ' ' then some cs.dropLast else none
  | _ => none

/-- What a cell says. -/
def readCell (cell : List Char) : Option (List Char) := (unpad cell).map unescape

/-- A line says some texts: cut into pieces, it has nothing in front of its first pipe and behind
its last one, and between them a cell for each text. -/
def Says (line : List Char) (texts : List (List Char)) : Prop :=
  ∃ cells, cut false line = [] :: (cells ++ [[]]) ∧ cells.map readCell = texts.map some

/-- A text with a blank in place of each line feed. -/
def unbroken (cs : List Char) : List Char := cs.map fun c => if c = '\n' then ' ' else c

/-- Without pipes and line feeds. -/
def Undivided (cs : List Char) : Prop := '|' ∉ cs ∧ '\n' ∉ cs

instance (cs : List Char) : Decidable (Undivided cs) :=
  inferInstanceAs (Decidable ('|' ∉ cs ∧ '\n' ∉ cs))

/-! ## Escaped texts -/

section EscapedTexts

open Report

theorem cellChars_pipe (cs : List Char) : cellChars ('|' :: cs) = '\\' :: '|' :: cellChars cs := rfl

theorem cellChars_feed (cs : List Char) : cellChars ('\n' :: cs) = ' ' :: cellChars cs := rfl

theorem cellChars_cons {c : Char} (hpipe : c ≠ '|') (hfeed : c ≠ '\n') (cs : List Char) :
    cellChars (c :: cs) = c :: cellChars cs := by
  unfold cellChars
  rw [List.flatMap_cons, if_neg hpipe, if_neg hfeed, List.singleton_append]

/-- Induction on a text by what the escape does to its characters. -/
@[elab_as_elim]
theorem cell_induction {motive : List Char → Prop} (nil : motive [])
    (pipe : ∀ cs, motive cs → motive ('|' :: cs)) (feed : ∀ cs, motive cs → motive ('\n' :: cs))
    (other : ∀ c cs, c ≠ '|' → c ≠ '\n' → motive cs → motive (c :: cs)) (cs : List Char) :
    motive cs := by
  induction cs with
  | nil => exact nil
  | cons c cs ih =>
    by_cases hpipe : c = '|'
    · exact hpipe ▸ pipe cs ih
    · by_cases hfeed : c = '\n'
      · exact hfeed ▸ feed cs ih
      · exact other c cs hpipe hfeed ih

theorem cellChars_of_undivided {cs : List Char} (h : Undivided cs) : cellChars cs = cs := by
  induction cs with
  | nil => rfl
  | cons c cs ih =>
    obtain ⟨hpipe, hpipes⟩ := List.ne_and_not_mem_of_not_mem_cons h.1
    obtain ⟨hfeed, hfeeds⟩ := List.ne_and_not_mem_of_not_mem_cons h.2
    rw [cellChars_cons hpipe.symm hfeed.symm, ih ⟨hpipes, hfeeds⟩]

theorem unbroken_of_undivided {cs : List Char} (h : Undivided cs) : unbroken cs = cs := by
  refine (List.map_congr_left fun c hc => ?_).trans (List.map_id cs)
  exact if_neg (ne_of_mem_of_not_mem hc h.2)

/-- An escaped text does not start with a pipe. -/
theorem head?_cellChars (cs : List Char) : (cellChars cs).head? ≠ some '|' := by
  induction cs using cell_induction with
  | nil => decide
  | pipe cs => exact fun h => absurd (Option.some.inj h) (by decide)
  | feed cs => exact fun h => absurd (Option.some.inj h) (by decide)
  | other c cs hpipe hfeed =>
    rw [cellChars_cons hpipe hfeed]
    exact fun h => hpipe (Option.some.inj h)

theorem unescape_of_head? {cs : List Char} (h : cs.head? ≠ some '|') (c : Char) :
    unescape (c :: cs) = c :: unescape cs := by
  rw [unescape, if_neg fun hc => h hc.2]

/-- **Taking the backslashes out again gives the text back**, but for its line feeds. -/
theorem unescape_cellChars (cs : List Char) : unescape (cellChars cs) = unbroken cs := by
  induction cs using cell_induction with
  | nil => rfl
  | pipe cs ih =>
    rw [cellChars_pipe, unescape, if_pos ⟨rfl, rfl⟩, unescape_of_head? (head?_cellChars cs), ih]
    rfl
  | feed cs ih =>
    rw [cellChars_feed, unescape_of_head? (head?_cellChars cs), ih]
    rfl
  | other c cs hpipe hfeed ih =>
    rw [cellChars_cons hpipe hfeed, unescape_of_head? (head?_cellChars cs), ih, unbroken, unbroken,
      List.map_cons, if_neg hfeed]

theorem cut_of_not {c : Char} {escaped : Bool} (h : ¬ (c = '|' ∧ escaped = false))
    (cs : List Char) : cut escaped (c :: cs) = onFirst c (cut (c == '\\') cs) :=
  if_neg h

/-- **An escaped text stays in one piece**, with the first piece of what is behind the blank that
ends its cell, whatever its last character is. -/
theorem cut_cellChars (escaped : Bool) (cs : List Char) {bs first : List Char}
    {rest : List (List Char)} (h : cut false bs = first :: rest) :
    cut escaped (cellChars cs ++ ' ' :: bs) = (cellChars cs ++ ' ' :: first) :: rest := by
  induction cs using cell_induction generalizing escaped with
  | nil =>
    change cut escaped (' ' :: bs) = (' ' :: first) :: rest
    rw [cut_of_not (by simp)]
    exact congrArg (onFirst ' ') h
  | pipe cs ih =>
    -- the pipe does not cut, since the backslash stands right before it
    rw [cellChars_pipe, List.cons_append, List.cons_append, cut_of_not (by simp),
      cut_of_not (by simp), ih]
    rfl
  | feed cs ih =>
    rw [cellChars_feed, List.cons_append, cut_of_not (by simp), ih]
    rfl
  | other c cs hpipe hfeed ih =>
    rw [cellChars_cons hpipe hfeed, List.cons_append, cut_of_not fun hc => hpipe hc.1, ih]
    rfl

/-! ## Rows of escaped texts -/

theorem cut_rowChars (texts : List (List Char)) :
    cut false (rowChars (texts.map cellChars)) =
      [] :: (texts.map (fun cs => ' ' :: (cellChars cs ++ [' '])) ++ [[]]) := by
  induction texts with
  | nil => rfl
  | cons cs texts ih =>
    have hrow : rowChars ((cs :: texts).map cellChars) = '|' :: ' ' ::
        (cellChars cs ++ ' ' :: rowChars (texts.map cellChars)) := by
      simp [rowChars]
    have hcell := cut_cellChars false cs ih
    have hcut : ∀ tail, cut false ('|' :: ' ' :: tail) = [] :: onFirst ' ' (cut false tail) :=
      fun _ => rfl
    rw [hrow, hcut, hcell]
    rfl

theorem readCell_padded (cs : List Char) :
    readCell (' ' :: (cellChars cs ++ [' '])) = some (unbroken cs) := by
  have hunpad : unpad (' ' :: (cellChars cs ++ [' '])) = some (cellChars cs) := by
    rw [unpad, List.getLast?_concat, if_pos rfl, List.dropLast_concat]
  rw [readCell, hunpad, Option.map_some, unescape_cellChars]

/-- **A row of escaped texts says these texts**, but for their line feeds. -/
theorem says_rowChars (texts : List (List Char)) :
    Says (rowChars (texts.map cellChars)) (texts.map unbroken) := by
  refine ⟨_, cut_rowChars texts, ?_⟩
  rw [List.map_map, List.map_map]
  exact List.map_congr_left fun cs _ => readCell_padded cs

theorem not_mem_feed_rowChars (texts : List (List Char)) :
    '\n' ∉ rowChars (texts.map cellChars) := by
  rw [not_mem_rowChars_iff (.inl rfl), List.forall_mem_map]
  exact fun cs _ => not_mem_feed_cellChars cs

end EscapedTexts

/-- Lines that end at a separator are what cutting at the separators gives, with nothing behind the
last one. -/
theorem splitOn_flatMap_concat {x : Char} {lines : List (List Char)} (h : ∀ l ∈ lines, x ∉ l) :
    (lines.flatMap (· ++ [x])).splitOn x = lines ++ [[]] := by
  induction lines with
  | nil => rfl
  | cons l lines ih =>
    obtain ⟨hl, hlines⟩ := List.forall_mem_cons.mp h
    rw [List.flatMap_cons, List.append_assoc, List.singleton_append,
      List.splitOn_append_cons_self_of_not_mem hl, ih hlines, List.cons_append]

end Markdown

/-! ## The section on the deliveries -/

namespace Report

open Markdown

/-- The lines above the rows: the title, an empty line and the two heading lines of the table. -/
def headLines : List String :=
  ["## Deliveries", "", "| Channel | Kind | Subject | Recipients |",
    "|---------|------|---------|------------|"]

theorem not_mem_feed_headLines : ∀ line ∈ headLines.map String.toList, '\n' ∉ line := by
  simp [headLines]

/-- The texts of a delivery, with all recipients in one. -/
def texts (d : ReportDelivery) : List (List Char) :=
  [d.channel.toList, d.kind.toList, d.subject.toList, (", ".intercalate d.recipients).toList]

/-- The texts of a delivery as the table has them: line feeds in its subject and its recipients are
blanks. -/
def shown (d : ReportDelivery) : List (List Char) :=
  [d.channel.toList, d.kind.toList, unbroken d.subject.toList,
    unbroken (", ".intercalate d.recipients).toList]

/-- Channel and kind of a delivery are without pipes and line feeds. -/
def Labelled (d : ReportDelivery) : Prop :=
  Undivided d.channel.toList ∧ Undivided d.kind.toList

instance (d : ReportDelivery) : Decidable (Labelled d) :=
  inferInstanceAs (Decidable (Undivided d.channel.toList ∧ Undivided d.kind.toList))

/-- The section on some deliveries can be read back: below its head it has one line for each, in
order, that says the texts of the delivery, and nothing behind the last line feed. -/
def ReadsBack (deliveries : List ReportDelivery) : Prop :=
  ∃ rows, (deliverySection deliveries).toList.splitOn '\n' =
      headLines.map String.toList ++ rows ++ [[]] ∧
    List.Forall₂ (fun d row => Says row (shown d)) deliveries rows

theorem deliveryRow_eq {d : ReportDelivery} (h : Labelled d) :
    (deliveryRow d).toList = rowChars ((texts d).map cellChars) ++ ['\n'] := by
  rw [toList_deliveryRow]
  simp [texts, cellChars_of_undivided h.1, cellChars_of_undivided h.2, String.toList_intercalate]

theorem map_unbroken_texts {d : ReportDelivery} (h : Labelled d) :
    (texts d).map unbroken = shown d := by
  simp only [texts, shown, List.map_cons, List.map_nil, unbroken_of_undivided h.1,
    unbroken_of_undivided h.2]

theorem deliverySection_eq {deliveries : List ReportDelivery} (hne : deliveries ≠ [])
    (h : ∀ d ∈ deliveries, Labelled d) : (deliverySection deliveries).toList =
      (headLines.map String.toList ++
        deliveries.map fun d => rowChars ((texts d).map cellChars)).flatMap (· ++ ['\n']) := by
  have hrows : (String.join (deliveries.map deliveryRow)).toList =
      (deliveries.map fun d => rowChars ((texts d).map cellChars)).flatMap (· ++ ['\n']) := by
    rw [String.toList_join, List.flatMap_map, List.flatMap_map]
    exact List.flatMap_congr fun d hd => deliveryRow_eq (h d hd)
  unfold deliverySection
  simp [hne, hrows, headLines]

theorem labelled_ofDelivery (d : Delivery) : Labelled (ofDelivery d) := by
  have hchannel : ∀ c : Channel, Undivided c.word.toList := fun c => by
    cases c <;> decide
  have hkind : ∀ k : NoticeKind, Undivided k.word.toList := fun k => by
    cases k <;> decide
  exact ⟨hchannel d.channel, hkind d.kind⟩

/-- **The deliveries table can be read back.** For deliveries whose channels and kinds are without
pipes and line feeds, as all those in the report of a run are, the table gives every channel and
kind, and every subject and list of recipients up to line feeds, whatever characters they have. -/
theorem deliverySection_readsBack :
    (∀ deliveries : List ReportDelivery, deliveries ≠ [] → (∀ d ∈ deliveries, Labelled d) →
      ReadsBack deliveries) ∧
    ∀ (runId : String) (generatedAt : Instant) (request : Run.Request) (response : Run.Response)
      (outbox : List Delivery),
      ∀ d ∈ (ofRun runId generatedAt request response outbox).deliveries, Labelled d := by
  refine ⟨fun deliveries hne h => ?_, fun runId generatedAt request response outbox d hd => ?_⟩
  · refine ⟨deliveries.map fun d => rowChars ((texts d).map cellChars), ?_, ?_⟩
    · refine (congrArg (List.splitOn '\n') (deliverySection_eq hne h)).trans ?_
      refine splitOn_flatMap_concat fun line hline => ?_
      rcases List.mem_append.mp hline with hhead | hrow
      · exact not_mem_feed_headLines line hhead
      · obtain ⟨d, -, rfl⟩ := List.mem_map.mp hrow
        exact not_mem_feed_rowChars (texts d)
    · refine List.forall₂_map_right_iff.mpr (List.forall₂_same.mpr fun d hd => ?_)
      rw [← map_unbroken_texts (h d hd)]
      exact says_rowChars (texts d)
  · obtain ⟨delivery, -, rfl⟩ := List.mem_map.mp hd
    exact labelled_ofDelivery delivery

/-- Deliveries with what a table cell could be broken by. -/
def sampleTable : List ReportDelivery :=
  [⟨"email", "issue-changes", "no \\| here | there\nnor \\", ["a|da", "bo\nb\\"]⟩,
    ⟨"legacy\\", "issue-changes ", "", []⟩]

theorem readsBack_sample : sampleTable ≠ [] ∧ (∀ d ∈ sampleTable, Labelled d) ∧
    ReadsBack sampleTable := by
  have hne : sampleTable ≠ [] := by decide
  have hlabelled : ∀ d ∈ sampleTable, Labelled d := by decide
  exact ⟨hne, hlabelled, deliverySection_readsBack.1 sampleTable hne hlabelled⟩

end Report

end IssueNotice
