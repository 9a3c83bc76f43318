import IssueNotice.Fixture
import IssueNotice.Host

/-!
# Fixture files

A fixture is read only from a regular file of limited size, never through a link at the end of its
path. The checks come before the first byte is read.
-/

namespace IssueNotice.Fixture

/-- Most bytes in a fixture. -/
def maxFileSize : Nat := 100 * 1024 * 1024

/-- Whether a file may be read as input, given what stands at its path. -/
def checkStatus (path : String) (maxSize : Nat) :
    Except PathProblem FileStatus → Except Failure Unit
  | .error problem =>
    .error (.missingFixture path
      s!"Check that the file exists and is readable ({problem.message})")
  | .ok .link => .error (.refusedFixture path "Security: symbolic links are not allowed")
  | .ok .folder | .ok .special => .error (.refusedFixture path "Not a regular file")
  | .ok (.file size) =>
    if maxSize < size then
      .error (.refusedFixture path
        (s!"Security: file is too large ({size} bytes). "
          ++ s!"Maximum allowed size is {maxSize} bytes."))
    else .ok ()

variable {m : Type → Type} [Monad m]

/-- Fails unless a file may be read as input. -/
def checkFile (host : Host m) (path : String) (maxSize : Nat) : Step m Unit := do
  Step.ofExcept (checkStatus path maxSize (← host.status path))

/-- The recorded analysis in a file. -/
def load (host : Host m) (path : String) : Step m Fixture := do
  checkFile host path maxFileSize
  match ← host.readText path with
  | .error details => throw (.malformedFixture path s!"Failed to read fixture: {details}")
  | .ok text => Step.ofExcept (ofText path text)

end IssueNotice.Fixture
