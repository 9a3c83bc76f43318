import IssueNotice.Folder

/-!
# Sessions

A host over a folder that notes what is printed. With it a whole command is a function from a folder
to what the user sees and the folder left behind.
-/

namespace IssueNotice

/-- A folder, and what was printed so far. -/
structure Session where
  folder : Folder := {}
  results : String := ""
  messages : String := ""

namespace Session

/-- Answers a question about the folder. -/
def ask {α : Type} (question : Folder → α) : StateM Session α := do
  pure (question (← get).folder)

/-- The host that a session is. -/
def host : Host (StateM Session) where
  status path := ask (·.status path)
  isPresent path := ask (·.isPresent path)
  isFolder path := ask (·.isFolder path)
  read path := ask (·.read path)
  write path content := do
    let s ← get
    match s.folder.write path content.toUTF8 with
    | .ok folder => do
      set { s with folder }
      pure (.ok ())
    | .error problem => pure (.error problem)
  print text := modify fun s => { s with results := s.results ++ text }
  tell text := modify fun s => { s with messages := s.messages ++ text }

end Session

end IssueNotice
