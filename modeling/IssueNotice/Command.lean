import IssueNotice.Console
import IssueNotice.Destination
import IssueNotice.Fixture.File
import IssueNotice.Options
import IssueNotice.Report.Text
import IssueNotice.Run.Store

/-!
# The command

Replays a recorded analysis: sends its notices to its own subscriptions and writes a report of it.
The result goes to where the options say, messages go to the other output, and the exit status tells
whether all went well.
-/

namespace IssueNotice

/-- The rows of a recorded analysis, delivering to its own subscriptions. -/
def Fixture.store (f : Fixture) : Run.Store where
  issues := f.issues
  rules := f.rules
  users := f.users
  messaging := .subscribed f.request.analysis.projectUuid f.subscriptions

/-- What a replay of a recorded analysis amounts to. -/
structure Replay where
  events : List Event
  report : Except Failure Report

/-- Runs a recorded analysis and reports on it. -/
def Fixture.replay (f : Fixture) (runId : String) (generatedAt : Instant) : Replay :=
  let outcome := Run.execute f.store.collaborators f.request {}
  { events := outcome.events
    report := outcome.result.map fun response =>
      Report.ofRun runId generatedAt f.request response outcome.state.outbox.toList }

namespace Command

variable {m : Type → Type} [Monad m]

/-- Shows messages, one on each line. -/
def tellLines (host : Host m) (lines : List String) : m Unit := do
  for line in lines do
    host.tell (line ++ "\n")

/-- Replays the fixture and writes its report. -/
def replay (host : Host m) (fixturePath : String) (options : Options) (runId : String)
    (generatedAt : Instant) : Step m Unit := do
  let fixture ← Fixture.load host fixturePath
  let replay := fixture.replay runId generatedAt
  let talk (lines : List String) : m Unit := if options.quiet then pure () else tellLines host lines
  talk (Console.lines replay.events)
  let report ← Step.ofExcept replay.report
  talk [options.format.progress]
  (Destination.ofOption options.output).put host (report.text options.format)
  talk (Console.summary report)

/-- Carries out the arguments. -/
def carryOut (host : Host m) (arguments : Arguments) (runId : String) (generatedAt : Instant) :
    Step m Unit := do
  let settings ← Settings.find host arguments.fixture arguments.settings
  let options := Options.merge arguments settings
  if !options.quiet then
    host.tell s!"📂 Loading analysis fixture: {arguments.fixture}\n"
  replay host arguments.fixture options runId generatedAt

/-- The whole command. -/
def run (host : Host m) (line : List String) (runId : String) (generatedAt : Instant) :
    m ExitStatus := do
  match Arguments.ofList line with
  | .error problem =>
    match problem with
    | .helpWanted | .versionWanted => do
      host.print (problem.message ++ "\n")
      pure .success
    | _ => do
      host.tell (problem.message ++ "\n")
      pure .invalidArguments
  | .ok arguments =>
    match ← (carryOut host arguments runId generatedAt).run with
    | .ok () => pure .success
    | .error e => do
      tellLines host (Console.failure e)
      pure .applicationError

end Command

end IssueNotice
