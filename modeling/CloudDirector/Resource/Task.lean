import CloudDirector.Resource.ErrorDetail
import CloudDirector.Resource.Link
import CloudDirector.Resource.Reference
import CloudDirector.Time.Rfc3339

/-!
# Tasks

A task is a snapshot of a long operation. It moves from pending over pre-running to running and
ends in one of four states.
-/
namespace CloudDirector
open Json Time

inductive TaskStatus where
  | pending | preRunning | running | success | aborted | error | canceled
  deriving DecidableEq, Repr, Inhabited

namespace TaskStatus

def label : TaskStatus → String
  | .pending => "pending"
  | .preRunning => "pre-running"
  | .running => "running"
  | .success => "success"
  | .aborted => "aborted"
  | .error => "error"
  | .canceled => "canceled"

def ofLabel (s : String) : Option TaskStatus :=
  if s = "pending" then some .pending
  else if s = "pre-running" then some .preRunning
  else if s = "running" then some .running
  else if s = "success" then some .success
  else if s = "aborted" then some .aborted
  else if s = "error" then some .error
  else if s = "canceled" then some .canceled
  else none

def isTerminal : TaskStatus → Bool
  | .success | .aborted | .error | .canceled => true
  | _ => false

theorem ofLabel_label (s : TaskStatus) : ofLabel s.label = some s := by
  cases s <;> decide

end TaskStatus

def Json.Decoder.instant : Decoder Instant := fun d => (Decoder.text d).bind Instant.ofRfc3339?

def Json.Value.ofInstant (t : Instant) : Value := .string t.rfc3339

structure Task where
  href : String
  id : Option String
  name : Option String
  operationName : Option String
  status : TaskStatus
  startTime : Option Instant
  endTime : Option Instant
  owner : Option Reference
  error : Option ErrorDetail
  link : List Link
  deriving DecidableEq, Repr, Inhabited

namespace Task

def members : List String :=
  ["href", "id", "name", "operationName", "status", "startTime", "endTime", "owner", "error",
    "link"]

def ofDocument : Decoder Task := fun d => do
  let r ← d.record? members
  some {
    href := ← r.required "href" .text
    id := ← r.optional "id" .text
    name := ← r.optional "name" .text
    operationName := ← r.optional "operationName" .text
    status := ← r.required "status" (.label TaskStatus.ofLabel)
    startTime := ← r.optional "startTime" .instant
    endTime := ← r.optional "endTime" .instant
    owner := ← r.optional "owner" Reference.ofDocument
    error := ← r.optional "error" ErrorDetail.ofDocument
    link := ← r.orElse "link" [] (.list Link.ofDocument) }

def toJson (t : Task) : Value :=
  .ofFields [("href", some (.string t.href)), ("id", t.id.map .string),
    ("name", t.name.map .string), ("operationName", t.operationName.map .string),
    ("status", some (.string t.status.label)), ("startTime", t.startTime.map .ofInstant),
    ("endTime", t.endTime.map .ofInstant), ("owner", t.owner.map Reference.toJson),
    ("error", t.error.map ErrorDetail.toJson), ("link", some (Link.listJson t.link))]

/-- The identifier of a task, or its address if it has none. -/
def urn (t : Task) : String := t.id.getD t.href

instance : Linked Task := ⟨fun t => some t.href, Task.link⟩

end Task

end CloudDirector
