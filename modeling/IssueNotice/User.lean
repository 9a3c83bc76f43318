import IssueNotice.Text.Keyed

/-!
# Users and rules

Users are known by uuid and rules by key. Both come as rows, and of several rows with one uuid or
key the last counts.
-/

namespace IssueNotice

/-- A user whom issues can be assigned to. -/
structure User where
  uuid : String
  login : String
  name : Option String := none
  email : Option String := none
  deriving Repr, DecidableEq

namespace User

/-- The name shown for a user: the login where no name is known. -/
def displayName (u : User) : String :=
  u.name.getD u.login

/-- Users by uuid. -/
def byUuid (users : List User) : Keyed User :=
  Keyed.ofEntries (users.map fun u => (u.uuid, u))

end User

/-- A rule that raises issues. -/
structure Rule where
  key : String
  name : String
  deriving Repr, DecidableEq

/-- Rules by key. -/
def Rule.byKey (rules : List Rule) : Keyed Rule :=
  Keyed.ofEntries (rules.map fun r => (r.key, r))

end IssueNotice
