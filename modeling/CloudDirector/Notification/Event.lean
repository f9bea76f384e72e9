import CloudDirector.Text.Cut

/-!
# Notifications

A notification says what has happened to an entity. Those about the connected vCenter servers are
events; a refresh counts as a modification.
-/
namespace CloudDirector
open Text

def routingKey (entityType : String) : String :=
  "#.#.com.vmware.vcloud.event." ++ entityType ++ ".*"

structure Notification where
  eventType : String
  entity : String
  succeeded : Bool
  deriving DecidableEq, Repr, Inhabited

/-- The notification that a payload carries, if it names a type and an entity. -/
def Notification.ofPayload? (payload : List (String × String)) : Option Notification := do
  let eventType ← payload.lookup "type"
  let entity ← payload.lookup "entity"
  some ⟨eventType, entity, (payload.lookup "operationSuccess").any fun v => lower v == "true"⟩

/-- What can happen to a server. -/
inductive EventKind where
  | create | modify | delete
  deriving DecidableEq, Repr, Inhabited

def EventKind.ofType? (eventType : String) : Option EventKind :=
  if eventType = "com/vmware/vcloud/event/vc/create" then some .create
  else if eventType = "com/vmware/vcloud/event/vc/modify" then some .modify
  else if eventType = "com/vmware/vcloud/event/vc/refresh" then some .modify
  else if eventType = "com/vmware/vcloud/event/vc/delete" then some .delete
  else none

structure Event where
  kind : EventKind
  entity : String
  succeeded : Bool
  deriving DecidableEq, Repr, Inhabited

/-- The event that a notification reports, if it is about a server. -/
def Event.ofNotification? (n : Notification) : Option Event :=
  (EventKind.ofType? n.eventType).map fun kind => ⟨kind, n.entity, n.succeeded⟩

end CloudDirector
