import IssueNotice.Host
import IssueNotice.Path

/-!
# Report destinations

A report is printed or written to a file. A file is written only into a folder that is there
already, and never through a link.
-/

namespace IssueNotice

/-- Where a report goes. -/
inductive Destination where
  | stdout
  | file (path : String)
  deriving Repr, DecidableEq

namespace Destination

/-- The destination that an option asks for. -/
def ofOption : Option String → Destination
  | none => stdout
  | some path => file path

/-- The destination in words. -/
def label : Destination → String
  | stdout => "stdout"
  | file path => s!"file:{path}"

variable {m : Type → Type} [Monad m]

/-- Fails unless a file may be written at a path. -/
def checkTarget (host : Host m) (path : String) : Step m Unit := do
  match Path.parent? path with
  | none | some "" => pure ()
  | some parent =>
    if !(← host.isFolder parent) then
      throw (.unwritable path s!"Parent directory does not exist: {parent}")
  match ← host.status path with
  | .ok .link =>
    throw (.unwritable path ("Security: Output path is a symbolic link. "
      ++ "Writing through symbolic links is not allowed."))
  | _ => pure ()

/-- Prints a text or writes it to a file. -/
def put (host : Host m) (text : String) : Destination → Step m Unit
  | stdout => liftM (host.print text)
  | file path => do
    checkTarget host path
    match ← host.write path text with
    | .ok () => liftM (host.tell s!"✅ Report written: {path}\n")
    | .error problem => throw (.unwritable path problem.message)

end Destination

end IssueNotice
