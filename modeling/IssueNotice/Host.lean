import IssueNotice.Failure

/-!
# Hosts

What a command asks of the machine that it runs on: a handful of questions about files, and two
places to print to. A `Host` answers in a monad of its own.
-/

namespace IssueNotice

/-- Why a path cannot be used. -/
inductive PathProblem where
  /-- The operating system refuses it, with a number and a text. -/
  | refused (code : Nat) (text : String)
  /-- It holds a character that no path can hold. -/
  | nulCharacter
  deriving Repr, DecidableEq

namespace PathProblem

/-- What is said about a problem. -/
def message : PathProblem → String
  | refused code text => s!"{text} (os error {code})"
  | nulCharacter => "file name contained an unexpected NUL byte"

/-- Nothing is there. -/
def notFound : PathProblem := refused 2 "No such file or directory"

/-- The user lacks a permission. -/
def notAllowed : PathProblem := refused 13 "Permission denied"

/-- Something on the way is no folder. -/
def notFolder : PathProblem := refused 20 "Not a directory"

/-- A folder is where a file should be. -/
def isFolder : PathProblem := refused 21 "Is a directory"

/-- A name, or the whole path, is too long. -/
def nameTooLong : PathProblem := refused 36 "File name too long"

/-- The way leads through too many links. -/
def tooManyLinks : PathProblem := refused 40 "Too many levels of symbolic links"

/-- The problem with a number; a text is needed for the rarer ones only. -/
def ofCode (code : Nat) (text : String) : PathProblem :=
  match code with
  | 2 => notFound
  | 13 => notAllowed
  | 20 => notFolder
  | 21 => isFolder
  | 36 => nameTooLong
  | 40 => tooManyLinks
  | _ => refused code text

end PathProblem

/-- What stands at a path. -/
inductive FileStatus where
  | file (size : Nat)
  | folder
  | link
  /-- Anything else that is no regular file. -/
  | special
  deriving Repr, DecidableEq

/-- What a command asks of the machine that it runs on. -/
structure Host (m : Type → Type) where
  /-- What stands at a path; a link at its end is not followed. -/
  status : String → m (Except PathProblem FileStatus)
  /-- Whether a path leads to anything, links followed. -/
  isPresent : String → m Bool
  /-- Whether a path leads to a folder, links followed. -/
  isFolder : String → m Bool
  /-- The content of a file, links followed. -/
  read : String → m (Except PathProblem ByteArray)
  /-- Replaces or makes a file. -/
  write : String → String → m (Except PathProblem Unit)
  /-- Prints results. -/
  print : String → m Unit
  /-- Prints messages. -/
  tell : String → m Unit

namespace Host

/-- What is said about a content that is not text. -/
def notText : String := "stream did not contain valid UTF-8"

/-- The text in a file, or what is wrong with it. -/
def readText {m : Type → Type} [Monad m] (host : Host m) (path : String) :
    m (Except String String) := do
  match ← host.read path with
  | .error problem => pure (.error problem.message)
  | .ok content =>
    match String.fromUTF8? content with
    | some text => pure (.ok text)
    | none => pure (.error notText)

end Host

/-- A step of a command, which a failure ends. -/
abbrev Step (m : Type → Type) (α : Type) := ExceptT Failure m α

/-- The step that a check amounts to. -/
def Step.ofExcept {m : Type → Type} [Monad m] {α : Type} (x : Except Failure α) : Step m α :=
  ExceptT.mk (pure x)

end IssueNotice
