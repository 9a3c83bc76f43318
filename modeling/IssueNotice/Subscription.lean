import IssueNotice.Notice

/-!
# Subscriptions

Users subscribe to kinds of notice on one of two channels: email, by which notices are delivered in
bulk, and the legacy channel, by which they are delivered one at a time. `Subscription.recipients`
says who receives a notice; a personal notice goes to nobody but its assignee.
-/

namespace IssueNotice

/-- The two ways in which a notice is delivered. -/
inductive Channel where
  | email
  | legacy
  deriving Repr, DecidableEq

namespace Channel

/-- The word for a channel. -/
def word : Channel → String
  | email => "email"
  | legacy => "legacy"

/-- The channel that a text names, in any case. -/
def ofText (s : String) : Except UnknownWord Channel :=
  match Text.lowerWord s with
  | "email" => .ok email
  | "legacy" => .ok legacy
  | _ => .error ⟨.channel, s⟩

end Channel

/-- Which notices a user wants, and how. -/
structure Subscription where
  login : String
  channel : Channel
  kinds : List NoticeKind
  deriving Repr, DecidableEq

/-- Record of one notice handed to one channel. -/
structure Delivery where
  channel : Channel
  kind : NoticeKind
  subject : String
  /-- Logins of those reached, possibly nobody. -/
  recipients : List String
  deriving Repr, DecidableEq

namespace Subscription

/-- Whether notices of a kind are wanted. -/
def wants (s : Subscription) (k : NoticeKind) : Bool := s.kinds.contains k

/-- A personal notice is meant for its assignee alone, any other for everybody. -/
def isAddressee (login : String) : Notice → Bool
  | .myNewIssues n => n.assignee.any fun u => u.login == login
  | _ => true

/-- The logins that a notice reaches on a channel, in the order of the subscriptions. -/
def recipients (subscriptions : List Subscription) (c : Channel) (n : Notice) : List String :=
  let matching := subscriptions.filter fun s =>
    s.channel == c && s.wants n.kind && isAddressee s.login n
  matching.map (·.login)

/-- The record of a notice handed to a channel. -/
def deliver (subscriptions : List Subscription) (c : Channel) (n : Notice) : Delivery where
  channel := c
  kind := n.kind
  subject := n.subject
  recipients := recipients subscriptions c n

/-- Whether any subscription wants any of some kinds. -/
def anyWants (subscriptions : List Subscription) (kinds : List NoticeKind) : Bool :=
  subscriptions.any fun s => kinds.any s.wants

end Subscription

end IssueNotice
