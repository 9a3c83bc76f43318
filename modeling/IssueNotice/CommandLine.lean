import IssueNotice.Report

/-!
# Command lines

The arguments of the command: one fixture, three options that take a value and one flag. An option's
value follows as the next argument, behind an equals sign or, for a short option, at once; short
options stand together behind one dash. Two dashes end the options.

A value that follows as an argument of its own is looked at when the next argument calls for it, so
an argument that is not known is reported before an earlier value that is wrong.
-/

namespace IssueNotice

/-- What the command is told. -/
structure Arguments where
  fixture : String
  format : Option ReportFormat := none
  output : Option String := none
  settings : Option String := none
  quiet : Bool := false
  deriving Repr, DecidableEq

/-- Why a command line is not carried out. -/
inductive UsageProblem where
  | helpWanted
  | versionWanted
  | missingFixture
  | unknownArgument (argument : String)
  /-- An option without a value, or a path that is empty. -/
  | missingValue
  /-- A value outside its vocabulary. -/
  | malformedValue (word : UnknownWord)
  | repeatedOption
  /-- A flag with a value. -/
  | unneededValue
  deriving Repr, DecidableEq

/-- What the user is told about a command line. -/
def UsageProblem.message : UsageProblem → String
  | helpWanted =>
    "Replay a recorded analysis through the issue notification step\n\n"
      ++ "Usage: issue-notifier [OPTIONS] <FIXTURE>\n\n"
      ++ "Arguments:\n  <FIXTURE>  Path to the analysis fixture (JSON)\n\n"
      ++ "Options:\n"
      ++ "  -f, --format <FORMAT>  Report format: json or markdown (defaults to json)\n"
      ++ "  -o, --output <OUTPUT>  "
      ++ "Report file path (if not specified, the report goes to stdout)\n"
      ++ "  -c, --config <CONFIG>  "
      ++ "Configuration file (defaults to issue-notifier.config.yml next to the fixture)\n"
      ++ "  -q, --quiet            Suppress progress messages on stderr\n"
      ++ "  -h, --help             Print help\n"
      ++ "  -V, --version          Print version"
  | versionWanted => "issue-notifier 0.1.0"
  | missingFixture => "error: the following required arguments were not provided:\n  <FIXTURE>"
  | unknownArgument argument => s!"error: unexpected argument '{argument}' found"
  | missingValue => "error: a value is required for an option but none was supplied"
  | malformedValue word => s!"error: invalid value '{word.text}' for an option: {word.message}"
  | repeatedOption => "error: an option cannot be used multiple times"
  | unneededValue => "error: unexpected value for a flag found; no more were expected"

/-- What a value on the command line is for. -/
inductive Slot where
  | fixture
  | format
  | output
  | settings
  deriving Repr, DecidableEq

/-- How far a command line was read. -/
structure Intake where
  fixture : Option String := none
  format : Option ReportFormat := none
  output : Option String := none
  settings : Option String := none
  quiet : Bool := false
  /-- The slot that was opened last, with its value if that came as an argument of its own. -/
  pending : Option (Slot × Option String) := none
  /-- Whether the options are over. -/
  escaped : Bool := false

namespace Intake

/-- The path that a value is, unless it is empty. -/
def pathValue (value : String) : Except UsageProblem (Option String) :=
  if value = "" then .error .missingValue else .ok (some value)

/-- Fills a slot, which must be empty. -/
def fill (d : Intake) (slot : Slot) (value : String) : Except UsageProblem Intake :=
  match slot with
  | .fixture =>
    if d.fixture.isSome then .error .repeatedOption
    else do pure { d with fixture := ← pathValue value }
  | .format =>
    if d.format.isSome then .error .repeatedOption
    else
      match ReportFormat.ofText value with
      | .ok format => .ok { d with format := some format }
      | .error word => .error (.malformedValue word)
  | .output =>
    if d.output.isSome then .error .repeatedOption
    else do pure { d with output := ← pathValue value }
  | .settings =>
    if d.settings.isSome then .error .repeatedOption
    else do pure { d with settings := ← pathValue value }

/-- Fills the slot that was opened last. -/
def settle (d : Intake) : Except UsageProblem Intake :=
  match d.pending with
  | none => .ok d
  | some (_, none) => .error .missingValue
  | some (slot, some value) => { d with pending := none }.fill slot value

/-- An option with the value that stands in the same argument, if one does. -/
def option (d : Intake) (slot : Slot) (value : Option String) : Except UsageProblem Intake := do
  let d ← d.settle
  match value with
  | some value => d.fill slot value
  | none => pure { d with pending := some (slot, none) }

/-- The flag that silences messages. -/
def silence (d : Intake) : Except UsageProblem Intake := do
  let d ← d.settle
  if d.quiet then .error .repeatedOption else pure { d with quiet := true }

/-- An option that ends the reading, once what came before it is in order. -/
def leave (d : Intake) (problem : UsageProblem) : Except UsageProblem Intake := do
  let _ ← d.settle
  .error problem

/-- A long option, by its name and what follows an equals sign. -/
def long (d : Intake) (name : String) (value : Option String) : Except UsageProblem Intake :=
  match name with
  | "format" => d.option .format value
  | "output" => d.option .output value
  | "config" => d.option .settings value
  | "quiet" => if value.isSome then .error .unneededValue else d.silence
  | "help" => if value.isSome then .error .unneededValue else d.leave .helpWanted
  | "version" => if value.isSome then .error .unneededValue else d.leave .versionWanted
  | _ => .error (.unknownArgument s!"--{name}")

/-- The value that stands right behind a short option, if one does. -/
def attached? : List Char → Option String
  | [] => none
  | '=' :: cs => some (String.ofList cs)
  | cs => some (String.ofList cs)

/-- Short options that stand together. -/
def short (d : Intake) : List Char → Except UsageProblem Intake
  | [] => .ok d
  | 'f' :: cs => d.option .format (attached? cs)
  | 'o' :: cs => d.option .output (attached? cs)
  | 'c' :: cs => d.option .settings (attached? cs)
  | 'q' :: cs => do (← d.silence).short cs
  | 'h' :: _ => d.leave .helpWanted
  | 'V' :: _ => d.leave .versionWanted
  | c :: _ => .error (.unknownArgument s!"-{c}")

/-- Whether the fixture was named. -/
def hasFixture (d : Intake) : Bool :=
  d.fixture.isSome || d.pending.any fun p => p.1 == .fixture

/-- An argument that is no option and no option's value. -/
def operand (d : Intake) (argument : String) : Except UsageProblem Intake :=
  if d.hasFixture then .error (.unknownArgument argument)
  else do pure { ← d.settle with pending := some (.fixture, some argument) }

/-- The next argument. -/
def read (d : Intake) (argument : String) : Except UsageProblem Intake :=
  if d.escaped then d.operand argument
  else
    match argument.toList with
    | ['-', '-'] => .ok { d with escaped := true }
    | '-' :: '-' :: cs =>
      let name := cs.takeWhile (· ≠ '=')
      let value := (cs.drop name.length).tail?
      d.long (String.ofList name) (value.map String.ofList)
    | '-' :: c :: cs => d.short (c :: cs)
    | _ =>
      match d.pending with
      | some (slot, none) => .ok { d with pending := some (slot, some argument) }
      | _ => d.operand argument

/-- What was read, once all arguments were. -/
def finish (d : Intake) : Except UsageProblem Arguments := do
  let d ← d.settle
  match d.fixture with
  | none => .error .missingFixture
  | some fixture =>
    pure {
      fixture
      format := d.format
      output := d.output
      settings := d.settings
      quiet := d.quiet }

end Intake

/-- The arguments on a command line, the command's own name left aside. -/
def Arguments.ofList (line : List String) : Except UsageProblem Arguments := do
  (← line.foldlM Intake.read {}).finish

end IssueNotice
