/-!
# Failures

Everything that can end a command early, by cause. `Failure.message` is the text shown to the user.
-/

namespace IssueNotice

/-- Why a command stops. -/
inductive Failure where
  /-- A changed issue refers to a rule that is not known. -/
  | unknownRule (ruleKey : String)
  /-- The fixture is not there, or its file status cannot be read. -/
  | missingFixture (path suggestion : String)
  /-- The fixture's content is not a valid recording. -/
  | malformedFixture (path details : String)
  /-- The fixture is something that is not read on principle. -/
  | refusedFixture (path reason : String)
  /-- The report cannot be written. -/
  | unwritable (path details : String)
  /-- An option has a value that is not allowed. -/
  | invalid (message : String)
  /-- Any other failure, with what caused it. -/
  | other (message : String) (causes : List String)
  deriving Repr, DecidableEq

namespace Failure

/-- The text shown for a failure. -/
def message : Failure → String
  | unknownRule ruleKey =>
    s!"Rule not found: {ruleKey}\n\n"
      ++ "💡 Hint: The rule repository must know every rule referenced by an issue"
  | missingFixture path suggestion =>
    s!"Analysis fixture not found: {path}\n\n💡 Hint: {suggestion}"
  | malformedFixture path details =>
    s!"Failed to parse analysis fixture: {path}\nDetails: {details}\n\n"
      ++ "💡 Hint: Please verify that the fixture is valid JSON"
  | refusedFixture path reason =>
    s!"Invalid fixture path: {path}\nReason: {reason}\n\n"
      ++ "💡 Hint: Please specify a regular JSON file"
  | unwritable path details =>
    s!"Failed to write to file: {path}\nDetails: {details}\n\n"
      ++ "💡 Hint: Please verify that the directory exists and you have write permissions"
  | invalid message => s!"Validation error: {message}"
  | other message _ => message

/-- What brought a failure about, outermost first. -/
def causes : Failure → List String
  | other _ causes => causes
  | _ => []

end Failure

/-- How a command ends. -/
inductive ExitStatus where
  | success
  | invalidArguments
  | applicationError
  deriving Repr, DecidableEq

namespace ExitStatus

/-- Every exit status. -/
def all : List ExitStatus := [success, invalidArguments, applicationError]

/-- The number handed to the operating system. -/
def code : ExitStatus → Nat
  | success => 0
  | invalidArguments => 2
  | applicationError => 3

/-- The status in words. -/
def label : ExitStatus → String
  | success => "Success (0)"
  | invalidArguments => "Invalid Arguments (2)"
  | applicationError => "Application Error (3)"

end ExitStatus

end IssueNotice
