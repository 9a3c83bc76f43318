import IssueNotice.Report.Json
import IssueNotice.Report.Markdown

/-!
# Reports as text

A report in the format asked for.
-/

namespace IssueNotice.Report

/-- The report in a format. -/
def text (format : ReportFormat) (r : Report) : String :=
  match format with
  | .json => r.jsonText
  | .markdown => r.markdownText

end IssueNotice.Report
