import IssueNotice.Run
import IssueNotice.Subscription
import IssueNotice.Total

/-!
# Run reports

What is written about a run: its project, how it ended, its counters and every delivery that reached
somebody.
-/

namespace IssueNotice

/-- The two forms in which a report is written. -/
inductive ReportFormat where
  | json
  | markdown
  deriving Repr, DecidableEq

namespace ReportFormat

/-- The word for a format. -/
def word : ReportFormat → String
  | json => "json"
  | markdown => "markdown"

/-- The format that a text names, in any case. -/
def ofText (s : String) : Except UnknownWord ReportFormat :=
  match Text.lowerWord s with
  | "json" => .ok json
  | "markdown" | "md" => .ok markdown
  | _ => .error ⟨.reportFormat, s⟩

/-- What the user is told while a report is written. -/
def progress : ReportFormat → String
  | json => "📝 Generating JSON run report..."
  | markdown => "📝 Generating Markdown run report..."

end ReportFormat

/-- The project that a report is about. -/
structure ReportProject where
  key : String
  name : String
  version : Option String
  branch : String
  pullRequest : Option String
  analysisDate : Instant
  deriving Repr, DecidableEq

/-- A delivery as it is reported. -/
structure ReportDelivery where
  channel : String
  kind : String
  subject : String
  recipients : List String
  deriving Repr, DecidableEq

/-- What is written about a run. -/
structure Report where
  runId : String
  generatedAt : Instant
  project : ReportProject
  ending : Run.Ending
  /-- Counters by name, in the order in which they were reported. -/
  counters : List (String × Nat)
  deliveries : List ReportDelivery
  deriving Repr, DecidableEq

namespace Report

/-- The names that deliveries are counted under. -/
def countsDeliveries (name : String) : Bool := name.endsWith "Deliveries"

/-- Sum of the counters that count deliveries. -/
def totalDeliveries (r : Report) : Nat :=
  total ((r.counters.filter fun c => countsDeliveries c.1).map (·.2))

/-- A delivery as it is reported. -/
def ofDelivery (d : Delivery) : ReportDelivery where
  channel := d.channel.word
  kind := d.kind.word
  subject := d.subject
  recipients := d.recipients

/-- The project of a request as it is reported. -/
def projectOf (r : Run.Request) : ReportProject where
  key := r.tree.project.key
  name := r.tree.project.name
  version := r.tree.project.version
  branch := r.analysis.branch.name
  pullRequest := r.analysis.pullRequest
  analysisDate := r.analysis.date

/-- The report of a run; deliveries that reached nobody are left out. -/
def ofRun (runId : String) (generatedAt : Instant) (request : Run.Request)
    (response : Run.Response) (deliveries : List Delivery) : Report where
  runId := runId
  generatedAt := generatedAt
  project := projectOf request
  ending := response.ending
  counters := response.counters.entries
  deliveries := (deliveries.filter fun d => !d.recipients.isEmpty).map ofDelivery

end Report

end IssueNotice
