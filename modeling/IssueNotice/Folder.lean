import IssueNotice.Host
import IssueNotice.Path

/-!
# Folders

A folder with everything below it as one value. Paths lead through it as the operating system walks
them: name by name, links on the way followed from the top, and `..` taken back to the folder above.
-/

namespace IssueNotice

/-- What has a name in a folder. -/
inductive FolderEntry where
  | folder
  | file (content : ByteArray)
  /-- Leads to another place, given by names from the top. -/
  | link (target : List String)

/-- A folder with everything below it. -/
structure Folder where
  /-- What is in it, by the names from the top. -/
  entries : List (List String × FolderEntry) := []
  /-- Where a path starts that does not start with a slash. -/
  start : List String := []

namespace Folder

/-- Most links that are followed on one walk. -/
abbrev maxLinks : Nat := 40

/-- Most bytes in a name. -/
abbrev maxNameBytes : Nat := 255

/-- Least number of bytes in a path that is too long. -/
abbrev pathBytesLimit : Nat := 4096

/-- What stands at a place; the top is a folder. -/
def entry? (f : Folder) : List String → Option FolderEntry
  | [] => some .folder
  | place => f.entries.lookup place

/-- Puts something at a place. -/
def put (f : Folder) (place : List String) (e : FolderEntry) : Folder :=
  { f with entries := (place, e) :: f.entries.filter fun x => x.1 != place }

/-- The place that names lead to and what stands there. -/
def walk (f : Folder) (followLast : Bool) (links : Nat) (here : List String) :
    List String → Except PathProblem (List String × FolderEntry)
  | [] => .ok (here, .folder)
  | name :: rest =>
    if name = "" ∨ name = "." then walk f followLast links here rest
    else if name = ".." then walk f followLast links here.dropLast rest
    else if maxNameBytes < name.utf8ByteSize then .error .nameTooLong
    else
      match f.entry? (here ++ [name]) with
      | none => .error .notFound
      | some .folder => walk f followLast links (here ++ [name]) rest
      | some (.file content) =>
        if rest.isEmpty then .ok (here ++ [name], .file content) else .error .notFolder
      | some (.link target) =>
        if rest.isEmpty && !followLast then .ok (here ++ [name], .link target)
        else
          match links with
          | 0 => .error .tooManyLinks
          | links + 1 => walk f followLast links [] (target ++ rest)
termination_by names => (links, names.length)

/-- The place from which a path leads, if it is one. -/
def origin (f : Folder) (path : String) : Except PathProblem (List String) :=
  if path.contains '\x00' then .error .nulCharacter
  else if path = "" then .error .notFound
  else if pathBytesLimit ≤ path.utf8ByteSize then .error .nameTooLong
  else .ok (if path.startsWith "/" then [] else f.start)

/-- The place that a path leads to and what stands there. -/
def locate (f : Folder) (followLast : Bool) (path : String) :
    Except PathProblem (List String × FolderEntry) := do
  f.walk followLast maxLinks (← f.origin path) (Path.names path)

/-- What stands at a path; a link at its end is not followed. -/
def status (f : Folder) (path : String) : Except PathProblem FileStatus := do
  match (← f.locate false path).2 with
  | .folder => pure .folder
  | .file content => pure (.file content.size)
  | .link _ => pure .link

/-- Whether a path leads to anything. -/
def isPresent (f : Folder) (path : String) : Bool := (f.locate true path).isOk

/-- Whether a path leads to a folder. -/
def isFolder (f : Folder) (path : String) : Bool :=
  match f.locate true path with
  | .ok (_, .folder) => true
  | _ => false

/-- The content of the file that a path leads to. -/
def read (f : Folder) (path : String) : Except PathProblem ByteArray := do
  match (← f.locate true path).2 with
  | .file content => pure content
  | _ => throw .isFolder

/-- The file at a name of a folder gets a content; it need not be there yet. -/
def writeAt (f : Folder) (place : List String) (content : ByteArray) :
    Except PathProblem Folder :=
  match f.entry? place with
  | none | some (.file _) => .ok (f.put place (.file content))
  | some .folder => .error .isFolder
  | some (.link target) => do
    match ← f.walk true (maxLinks - 1) [] target with
    | (place, .file _) => pure (f.put place (.file content))
    | _ => throw .isFolder

/-- The file at a path gets a content; only its folder must be there. -/
def write (f : Folder) (path : String) (content : ByteArray) : Except PathProblem Folder := do
  let start ← f.origin path
  let names := (Path.names path).filter (· ≠ "")
  let name := names.getLastD ""
  match ← f.walk true maxLinks start names.dropLast with
  | (folder, .folder) =>
    if path.endsWith "/" || name = "." || name = ".." then throw .isFolder
    if maxNameBytes < name.utf8ByteSize then throw .nameTooLong
    f.writeAt (folder ++ [name]) content
  | _ => throw .notFolder

end Folder

end IssueNotice
