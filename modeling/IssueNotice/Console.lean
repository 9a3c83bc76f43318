import IssueNotice.Report
import IssueNotice.Run.Event

/-!
# Console messages

What the user sees of a run while it goes on and when it ended. From the first progress on a spinner
has the console, and reports are lost until the run ends; its last message is always shown.
-/

namespace IssueNotice.Console

/-- The lines shown for events, given whether a spinner has the console. -/
def linesFrom (spinning : Bool) : List Event → List String
  | [] => []
  | .report text :: rest =>
    if spinning then linesFrom spinning rest else text :: linesFrom spinning rest
  | .progress _ _ :: rest => linesFrom true rest
  | .failed text :: rest => text :: linesFrom false rest
  | .completed text :: rest => text :: linesFrom false rest
  | _ :: rest => linesFrom spinning rest

/-- The lines shown for the events of a run. -/
def lines (events : List Event) : List String := linesFrom false events

/-- A text between two terminal codes. -/
def styled (on off : Nat) (text : String) : String :=
  s!"\x1b[{on}m{text}\x1b[{off}m"

/-- In bold letters. -/
def bold : String → String := styled 1 0

/-- In faint letters. -/
def dimmed : String → String := styled 2 0

/-- In green. -/
def green : String → String := styled 32 39

/-- In yellow. -/
def yellow : String → String := styled 33 39

/-- In cyan. -/
def cyan : String → String := styled 36 39

/-- The ending of a run in its colour. -/
def ending : Run.Ending → String
  | .completed => green Run.Ending.completed.word
  | .noSubscribers => yellow Run.Ending.noSubscribers.word
  | .skippedBranch => dimmed Run.Ending.skippedBranch.word

/-- Width of the column of names. -/
abbrev nameWidth : Nat := 24

/-- A name filled up with spaces to the width of its column. -/
def padded (name : String) : String :=
  name ++ String.ofList (List.replicate (nameWidth - name.length) ' ')

/-- The summary of a report, after an empty line. -/
def summary (r : Report) : List String :=
  ["", bold "Run" ++ s!" {r.runId} on {cyan r.project.key}: {ending r.ending}"]
    ++ r.counters.map (fun c => s!"   {padded c.1} {c.2}")
    ++ ["   " ++ bold (padded "total deliveries") ++ s!" {r.totalDeliveries}"]

/-- What is shown of a failure: its message, then what caused it. -/
def failure (e : Failure) : List String :=
  ["", "❌ An error occurred:", "", e.message]
    ++ e.causes.flatMap (fun cause => ["", s!"Caused by: {cause}"])
    ++ [""]

end IssueNotice.Console
