import IssueNotice.Run
import IssueNotice.Run.Meter
import IssueNotice.Subscription
import IssueNotice.Total

/-!
# Collaborators over plain data

Issues, users and rules held as rows, with a messaging service of one of two makes: one that
delivers to subscriptions and records every delivery, and one that gives the same answers whatever
it is handed. These collaborators never fail.
-/

namespace IssueNotice.Run

/-- A messaging service that does not fail. -/
structure Messaging where
  hasSubscribers : String → List NoticeKind → Bool
  /-- What handing notices to the email channel records, and how many recipients that reaches. -/
  bulk : List Notice → List Delivery × Nat
  /-- What handing a notice to the legacy channel records, and how many recipients that reaches. -/
  single : Notice → List Delivery × Nat

namespace Messaging

/-- Total number of recipients of some deliveries. -/
def reach (deliveries : List Delivery) : Nat :=
  total (deliveries.map fun d => d.recipients.length)

/-- Delivers to the subscriptions of one project. -/
def subscribed (projectUuid : String) (subscriptions : List Subscription) : Messaging where
  hasSubscribers uuid kinds :=
    uuid == projectUuid && Subscription.anyWants subscriptions kinds
  bulk notices :=
    let deliveries := notices.map (Subscription.deliver subscriptions .email)
    (deliveries, reach deliveries)
  single notice :=
    let delivery := Subscription.deliver subscriptions .legacy notice
    ([delivery], delivery.recipients.length)

/-- Records nothing and reaches a fixed number of recipients with each notice. -/
def fixed (wanted : Bool) (email legacy : Nat) : Messaging where
  hasSubscribers _ _ := wanted
  bulk notices := ([], email * notices.length)
  single _ := ([], legacy)

end Messaging

/-- The rows that a run works on, and its messaging service. -/
structure Store where
  issues : List Issue
  rules : List Rule
  users : List User
  messaging : Messaging

/-- What runs did to a store. -/
structure Usage where
  streams : Meter := {}
  sessions : Meter := {}
  /-- Everything delivered so far. -/
  outbox : Array Delivery := #[]

/-- The users with some uuids, in the order of the uuids. -/
def Store.select (s : Store) (uuids : List String) : List User :=
  let users := User.byUuid s.users
  uuids.filterMap fun uuid => users[uuid]?

/-- Records deliveries and passes their count on. -/
def Usage.deliver (u : Usage) (sent : List Delivery × Nat) : Except Failure Nat × Usage :=
  (.ok sent.2, { u with outbox := u.outbox ++ sent.1 })

/-- The collaborators that a store gives a run. -/
def Store.collaborators (s : Store) : Collaborators Usage :=
  let rules := Rule.byKey s.rules
  { hasSubscribers := fun uuid kinds u => (.ok (s.messaging.hasSubscribers uuid kinds), u)
    openStream := fun u => (.ok (s.issues.map .ok), { u with streams := u.streams.acquire })
    closeStream := fun u => { u with streams := u.streams.release }
    openSession := fun u => (.ok (), { u with sessions := u.sessions.acquire })
    selectUsers := fun uuids u => (.ok (s.select uuids), u)
    closeSession := fun u => { u with sessions := u.sessions.release }
    findRule := fun key u => (.ok rules[key]?, u)
    sendBulk := fun notices u => u.deliver (s.messaging.bulk notices)
    sendSingle := fun notice u => u.deliver (s.messaging.single notice) }

end IssueNotice.Run
