import CloudDirector.Resource.Task

/-!
# Query records

The rows of the task query and of the event query.
-/
namespace CloudDirector
open Json Time

/-- A row of the task query. -/
structure TaskRecord where
  href : String
  id : Option String
  name : Option String
  status : TaskStatus
  startDate : Option Instant
  endDate : Option Instant
  deriving DecidableEq, Repr, Inhabited

namespace TaskRecord

def members : List String := ["href", "id", "name", "status", "startDate", "endDate"]

def ofDocument : Decoder TaskRecord := fun d => do
  let r ← d.record? members
  some {
    href := ← r.orElse "href" "" .text
    id := ← r.optional "id" .text
    name := ← r.optional "name" .text
    status := ← r.required "status" (.label TaskStatus.ofLabel)
    startDate := ← r.optional "startDate" .instant
    endDate := ← r.optional "endDate" .instant }

def toJson (t : TaskRecord) : Value :=
  .ofFields [("href", some (.string t.href)), ("id", t.id.map .string),
    ("name", t.name.map .string), ("status", some (.string t.status.label)),
    ("startDate", t.startDate.map .ofInstant), ("endDate", t.endDate.map .ofInstant)]

end TaskRecord

/-- A row of the event query. -/
structure EventRecord where
  href : Option String
  eventType : String
  entity : Option String
  entityName : Option String
  timeStamp : Option Instant
  eventStatus : Option Int
  serviceNamespace : Option String
  deriving DecidableEq, Repr, Inhabited

namespace EventRecord

def members : List String :=
  ["href", "eventType", "entity", "entityName", "timeStamp", "eventStatus", "serviceNamespace"]

def ofDocument : Decoder EventRecord := fun d => do
  let r ← d.record? members
  some {
    href := ← r.optional "href" .text
    eventType := ← r.required "eventType" .text
    entity := ← r.optional "entity" .text
    entityName := ← r.optional "entityName" .text
    timeStamp := ← r.optional "timeStamp" .instant
    eventStatus := ← r.optional "eventStatus" .int32
    serviceNamespace := ← r.optional "serviceNamespace" .text }

def toJson (e : EventRecord) : Value :=
  .ofFields [("href", e.href.map .string), ("eventType", some (.string e.eventType)),
    ("entity", e.entity.map .string), ("entityName", e.entityName.map .string),
    ("timeStamp", e.timeStamp.map .ofInstant), ("eventStatus", e.eventStatus.map .ofInt),
    ("serviceNamespace", e.serviceNamespace.map .string)]

end EventRecord

end CloudDirector
