import IssueNotice.Host
import IssueNotice.Path
import IssueNotice.Report
import IssueNotice.Text.Keyed
import IssueNotice.Yaml.Value

/-!
# Settings

Options kept in a YAML file. A field may be left out or null; a field that is not known is named in
a warning, but its value must make sense. Among several faults the order is: the file cannot be
read, it cannot be understood, its format is not known, its output is empty.
-/

namespace IssueNotice

/-- A report format by the word that asks for it. -/
structure FormatWord where
  word : String
  format : ReportFormat
  deriving Repr, DecidableEq

/-- What a settings file asks for. -/
structure Settings where
  format : Option FormatWord
  output : Option String
  quiet : Option Bool
  /-- Names of the fields that are not known. -/
  unknown : TextSet

/-! ## As written -/

/-- The fields of a settings file as they are written: a field may be missing, null or given. -/
structure SettingsEntry where
  format : Option (Option String) := none
  output : Option (Option String) := none
  quiet : Option (Option Bool) := none
  unknown : TextSet := ∅

namespace SettingsEntry

/-- Greatest depth of collections in a settings file, its own mapping left aside. -/
abbrev maxDepth : Nat := 127

/-- A scalar that may be null, as its text; nothing for other nodes. -/
def nullable? : Yaml.Node → Option (Option String)
  | .scalar text .plain none =>
    if text = "" || Yaml.isNullWord text then some none else some (some text)
  | .scalar text .plain (some tag) =>
    if tag = .null then if Yaml.isNullWord text then some none else none
    else some (some text)
  | .scalar text _ _ => some (some text)
  | _ => none

/-- A truth value that may be null; nothing for other nodes. -/
def truth? (n : Yaml.Node) : Option (Option Bool) := do
  match ← nullable? n with
  | none => pure none
  | some word =>
    match n with
    | .scalar _ .plain _ => (Yaml.truthValue? word).map some
    | .scalar _ .literal tag =>
      if tag = some .truth then (Yaml.truthValue? word).map some else none
    | _ => none

/-- The text of a key; every scalar is one. -/
def key? : Yaml.Node → Option String
  | .scalar text _ _ => some text
  | _ => none

variable (d : Yaml.Document)

/-- Takes up a field of a document; a known one may stand there once. -/
def add (s : SettingsEntry) (key : String) (n : Yaml.Node) :
    Yaml.Document.Resolving SettingsEntry :=
  match key with
  | "format" => do
    if s.format.isSome then failure
    let format ← liftM (nullable? (← d.follow n))
    pure { s with format := some format }
  | "output" => do
    if s.output.isSome then failure
    let output ← liftM (nullable? (← d.follow n))
    pure { s with output := some output }
  | "quiet" => do
    if s.quiet.isSome then failure
    let quiet ← liftM (truth? (← d.follow n))
    pure { s with quiet := some quiet }
  | _ => do
    let _ ← d.value? maxDepth n
    pure { s with unknown := s.unknown.insert key }

/-- Takes up the fields of a document one after another. -/
def addAll (s : SettingsEntry) (entries : List (Yaml.Node × Yaml.Node)) :
    Yaml.Document.Resolving SettingsEntry :=
  entries.foldlM (fun s (k, v) => do
    let key ← liftM (key? (← d.follow k))
    s.add d key v) s

/-- The fields of a document; nothing is as good as no field. -/
def ofDocument? : Option SettingsEntry :=
  match d.root with
  | none => some {}
  | some (.scalar "" .plain _) => some {}
  | some (.mapping _ entries) => (addAll d {} entries).run' d.aliasLimit
  | some _ => none

/-- The settings that are written. -/
def settings (s : SettingsEntry) : Except Failure Settings := do
  let format ← match s.format.join with
    | none => pure none
    | some word =>
      match ReportFormat.ofText word with
      | .ok format => pure (some ⟨word, format⟩)
      | .error unknown => throw (.invalid s!"Invalid config: {unknown.message}")
  if s.output.join = some "" then throw (.invalid "Invalid config: output must not be empty.")
  pure { format, output := s.output.join, quiet := s.quiet.join, unknown := s.unknown }

end SettingsEntry

/-! ## From files -/

namespace Settings

/-- The name under which settings are looked for. -/
def fileName : String := "issue-notifier.config.yml"

/-- A settings file that cannot be read. -/
def unreadable (path cause : String) : Failure :=
  .other
    (s!"Failed to read config file: {path}\n\n"
      ++ "💡 Hint: Check that the file exists and is readable.")
    [cause]

/-- A settings file that cannot be understood. -/
def unintelligible (path cause : String) : Failure :=
  .other
    (s!"Failed to parse config file: {path}\n\n"
      ++ "💡 Hint: Ensure the file contains valid YAML syntax.")
    [cause]

/-- The settings in a file's text; the path is named in failures. -/
def ofText (path text : String) : Except Failure Settings :=
  match Yaml.Document.ofText text with
  | .error problem => .error (unintelligible path problem.message)
  | .ok document =>
    match SettingsEntry.ofDocument? document with
    | none => .error (unintelligible path "invalid type")
    | some entry => entry.settings

/-- What the user is told about settings: the fields that are not known, in order. -/
def warnings (s : Settings) : List String :=
  s.unknown.toList.map fun name => s!"⚠️  Warning: Unknown config field '{name}' will be ignored."

/-- Where settings are looked for: next to a fixture. -/
def pathNextTo (fixture : String) : String :=
  match Path.parent? fixture with
  | none | some "" => Path.within "." fileName
  | some folder => Path.within folder fileName

variable {m : Type → Type} [Monad m]

/-- The settings in a file; warns of the fields that are not known. -/
def load (host : Host m) (path : String) : Step m Settings := do
  match ← host.readText path with
  | .error cause => throw (unreadable path cause)
  | .ok text => do
    let settings ← Step.ofExcept (ofText path text)
    for warning in settings.warnings do
      host.tell (warning ++ "\n")
    pure settings

/-- The settings for a fixture: those of a given file, or else those next to it, if any. -/
def find (host : Host m) (fixture : String) : Option String → Step m (Option Settings)
  | some path => do pure (some (← load host path))
  | none => do
    let path := pathNextTo fixture
    if ← host.isPresent path then pure (some (← load host path)) else pure none

end Settings

end IssueNotice
