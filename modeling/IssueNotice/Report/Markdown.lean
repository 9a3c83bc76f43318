import IssueNotice.Instant.Printing
import IssueNotice.Report

/-!
# Reports as Markdown

A heading with the project, a table of the counters and a table of the deliveries. In the cells of
the deliveries table pipes are escaped and line feeds become blanks.
-/

namespace IssueNotice.Report

/-- A text for a table cell. -/
def cellChars (cs : List Char) : List Char :=
  cs.flatMap fun c => if c = '|' then ['\\', '|'] else if c = '\n' then [' '] else [c]

/-- A text for a table cell. -/
def cell (s : String) : String := String.ofList (cellChars s.toList)

/-- An item of the heading. -/
def headingItem (label value : String) : String := s!"- **{label}**: {value}\n"

/-- The heading. -/
def heading (r : Report) : String :=
  let p := r.project
  "# Issue Notification Report\n\n"
    ++ headingItem "Project" s!"{p.name} (`{p.key}`)"
    ++ (p.version.map (headingItem "Version")).getD ""
    ++ headingItem "Branch" p.branch
    ++ (p.pullRequest.map (headingItem "Pull request")).getD ""
    ++ headingItem "Analysis date" p.analysisDate.text
    ++ headingItem "Outcome" r.ending.word
    ++ headingItem "Run id" r.runId
    ++ "\n"

/-- The row of a counter. -/
def counterRow (c : String × Nat) : String := s!"| {c.1} | {c.2} |\n"

/-- The section on the counters. -/
def counterSection (counters : List (String × Nat)) : String :=
  "## Counters\n\n"
    ++ if counters.isEmpty then "No counters were recorded for this run.\n\n"
      else "| Counter | Value |\n|---------|-------|\n"
        ++ String.join (counters.map counterRow) ++ "\n"

/-- The row of a delivery. -/
def deliveryRow (d : ReportDelivery) : String :=
  let recipients := String.intercalate ", " d.recipients
  s!"| {d.channel} | {d.kind} | {cell d.subject} | {cell recipients} |\n"

/-- The section on the deliveries. -/
def deliverySection (deliveries : List ReportDelivery) : String :=
  "## Deliveries\n\n"
    ++ if deliveries.isEmpty then "No notification reached a subscriber.\n"
      else "| Channel | Kind | Subject | Recipients |\n|---------|------|---------|------------|\n"
        ++ String.join (deliveries.map deliveryRow)

/-- The report as Markdown text. -/
def markdownText (r : Report) : String :=
  r.heading ++ counterSection r.counters ++ deliverySection r.deliveries

end IssueNotice.Report
