import IssueNotice.Text.Casing
import IssueNotice.Vocabulary

/-!
# Components

The project, its directories and its files.
-/

namespace IssueNotice

/-- Kind of a component. -/
inductive ComponentKind where
  | project
  | directory
  | file
  deriving Repr, DecidableEq

namespace ComponentKind

/-- The word for a component kind. -/
def word : ComponentKind → String
  | project => "project"
  | directory => "directory"
  | file => "file"

/-- The component kind that a text names, in any case. -/
def ofText (s : String) : Except UnknownWord ComponentKind :=
  match Text.lowerWord s with
  | "project" => .ok project
  | "directory" | "dir" => .ok directory
  | "file" => .ok file
  | _ => .error ⟨.componentKind, s⟩

end ComponentKind

/-- A component of a project. -/
structure Component where
  key : String
  uuid : String
  name : String
  kind : ComponentKind
  version : Option String := none
  deriving Repr, DecidableEq

/-- Issues are raised on files. -/
def Component.isFile (c : Component) : Bool :=
  c.kind == .file

end IssueNotice
