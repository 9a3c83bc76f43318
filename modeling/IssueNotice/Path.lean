/-!
# Paths

Paths as the user writes them: names parted by slashes. They are taken apart without a look at any
file, and what is not cut off keeps its spelling.
-/

namespace IssueNotice.Path

/-- A path, last character first, without the slashes and single points at its end. -/
def trimEnd : List Char → List Char
  | '/' :: rest => if rest.isEmpty then ['/'] else trimEnd rest
  | '.' :: '/' :: rest => trimEnd ('/' :: rest)
  | cs => cs
termination_by cs => cs.length

/-- The path without its last name; it is empty for a single name. The top has no parent. -/
def parent? (path : String) : Option String :=
  match trimEnd path.toList.reverse with
  | [] | ['/'] => none
  | cs => some (String.ofList (trimEnd (cs.dropWhile (· ≠ '/'))).reverse)

/-- The path of a name in a folder. -/
def within (folder name : String) : String :=
  if folder.endsWith "/" then folder ++ name else folder ++ "/" ++ name

/-- The names of a path in order; empty ones stand where slashes follow each other or end it. -/
def names (path : String) : List String := path.splitOn "/"

end IssueNotice.Path
