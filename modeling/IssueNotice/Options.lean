import IssueNotice.CommandLine
import IssueNotice.Settings

/-!
# Options

What is in force for one command: the command line first, then the settings file, then a default.
-/

namespace IssueNotice

/-- What is in force for one command. -/
structure Options where
  format : ReportFormat
  output : Option String
  quiet : Bool
  deriving Repr, DecidableEq

/-- The options that arguments and settings amount to. -/
def Options.merge (arguments : Arguments) (settings : Option Settings) : Options where
  format := (arguments.format <|> settings.bind fun s => s.format.map (·.format)).getD .json
  output := arguments.output <|> settings.bind (·.output)
  quiet := arguments.quiet || (settings.bind (·.quiet)).getD false

end IssueNotice
