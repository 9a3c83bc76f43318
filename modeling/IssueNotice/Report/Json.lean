import IssueNotice.Instant.Printing
import IssueNotice.Json.Document
import IssueNotice.Report

/-!
# Reports as JSON

Version and pull request are left out when there is none. Counters form an object ordered by name,
in which the last counter of a name counts.
-/

namespace IssueNotice.Report

/-- A field that is left out when there is no value. -/
def optionalField (key : String) (value : Option String) : List (String × Json.Document) :=
  value.toList.map fun s => (key, .text s)

/-- The project of a report. -/
def projectDocument (p : ReportProject) : Json.Document :=
  .object (
    [("key", .text p.key), ("name", .text p.name)]
    ++ optionalField "version" p.version
    ++ [("branch", .text p.branch)]
    ++ optionalField "pullRequest" p.pullRequest
    ++ [("analysisDate", .text p.analysisDate.text)])

/-- A delivery of a report. -/
def deliveryDocument (d : ReportDelivery) : Json.Document :=
  .object [
    ("channel", .text d.channel),
    ("kind", .text d.kind),
    ("subject", .text d.subject),
    ("recipients", .list (d.recipients.map .text))]

/-- The report as a document. -/
def document (r : Report) : Json.Document :=
  .object [
    ("runId", .text r.runId),
    ("generatedAt", .text r.generatedAt.text),
    ("project", projectDocument r.project),
    ("outcome", .text r.ending.word),
    ("counters", .object ((Keyed.ofEntries r.counters).toList.map fun c => (c.1, .count c.2))),
    ("deliveries", .list (r.deliveries.map deliveryDocument))]

/-- The report as JSON text. -/
def jsonText (r : Report) : String :=
  String.ofList (r.document.layout 0 ++ ['\n'])

end IssueNotice.Report
