import CloudDirector.Keyed
import CloudDirector.Resource.Record
import CloudDirector.Task.Watermark
import CloudDirector.Error

/-!
# Trackers

A tracker holds what is known of many tasks: the pending ones, the status of the finished ones,
and at which address each was seen, for records that name no identifier. Tasks are tracked until
the tracker is sealed; then records of ended tasks settle what is pending.
-/
namespace CloudDirector
open Time

structure Tracker where
  isSealed : Bool
  /-- Identifiers of tasks by their addresses. -/
  idsByHref : List (String × String)
  /-- Addresses of the tasks that have not ended. -/
  pending : List (String × String)
  /-- The status of the tasks that have ended. -/
  finished : List (String × TaskStatus)
  watermark : Watermark
  deriving DecidableEq, Repr, Inhabited

namespace Tracker

def empty : Tracker := ⟨false, [], [], [], .empty⟩

def add (t : Tracker) (task : Task) : Tracker :=
  let t := { t with
    idsByHref := Keyed.insert task.href task.urn t.idsByHref
    watermark := t.watermark.tellStart task.startTime }
  if task.status.isTerminal then
    { t with
      pending := Keyed.erase task.urn t.pending
      finished := Keyed.insert task.urn task.status t.finished }
  else { t with pending := Keyed.insert task.urn task.href t.pending }

/-- Tracks tasks, unless the tracker is sealed. -/
def track (t : Tracker) (tasks : List Task) : Result Tracker :=
  if t.isSealed then .error .trackerSealed else .ok (tasks.foldl add t)

/-- Seals the tracker, which is done once. -/
def sealOff (t : Tracker) : Result Tracker :=
  if t.isSealed then .error .trackerSealed else .ok { t with isSealed := true }

/-- The status of every tracked task, once none is pending. -/
def result? (t : Tracker) : Option (List (String × TaskStatus)) :=
  if t.pending = [] then some t.finished else none

def isPending (t : Tracker) (id : String) : Bool := Keyed.contains id t.pending

/-- The pending task that a record is about: by its identifier, else by its address. -/
def resolve (t : Tracker) (r : TaskRecord) : Option String :=
  ((r.id.filter t.isPending).or (t.idsByHref.lookup r.href)).filter t.isPending

/-- The tracker after a record: the record of an ended task settles what it is about. -/
def settle (t : Tracker) (r : TaskRecord) : Tracker :=
  if r.status.isTerminal then
    match t.resolve r with
    | some id => { t with
        pending := Keyed.erase id t.pending
        finished := Keyed.insert id r.status t.finished }
    | none => t
  else t

def latestEnd (records : List TaskRecord) : Option Instant :=
  (records.filterMap TaskRecord.endDate).getLast?

def absorb (t : Tracker) (records : List TaskRecord) : Tracker :=
  let t := records.foldl settle t
  match latestEnd records with
  | some last => { t with watermark := t.watermark.moveTo (some last) }
  | none => t

end Tracker

end CloudDirector
