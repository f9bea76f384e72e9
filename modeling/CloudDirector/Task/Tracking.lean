import CloudDirector.Query.Records
import CloudDirector.Task.Tracker

/-!
# Tracking tasks

A sealed tracker asks for tasks that ended at or after its watermark, earliest end first, until
none is pending. All that is left to the reader's patience is how many pages an answer may have
and how often is asked.
-/
namespace CloudDirector
open Http Time

namespace Tracker

/-- The filter for tasks that ended at or after an instant, to the millisecond. -/
def endedSince (t : Instant) : String := "endDate=ge=" ++ t.rfc3339Millis

def endedQuery (mark : Option Instant) : Query :=
  { Query.ofType "task" .idRecords with
    sortAsc := some "endDate"
    filter := mark.map endedSince }

/-- Asks once for ended tasks: the tracker after the answer, none if it has too many pages. -/
def poll (s : Settings) (patience : Nat) (t : Tracker) : Action (Option Tracker) := do
  let (mark, watermark) := t.watermark.read
  let stream := RecordStream.unasked (endedQuery mark)
  match ← stream.all s TaskRecord.ofDocument patience with
  | (records, .ended) => return some ({ t with watermark }.absorb records)
  | (_, .failed e) => throw e
  | _ => return none

/-- Asks for ended tasks until none is pending, `polls` times at most. -/
def watch (s : Settings) (patience : Nat) :
    (polls : Nat) → Tracker → Action (Option (List (String × TaskStatus)))
  | polls, t =>
    match t.result? with
    | some result => return some result
    | none =>
      match polls with
      | 0 => return none
      | polls + 1 => do
        match ← t.poll s patience with
        | none => return none
        | some t =>
          if t.result?.isNone then Program.wait s.bulkPollInterval
          watch s patience polls t

end Tracker

abbrev Statuses := List (String × TaskStatus)

/-- A tracker in use: whether its watching was canceled, and its result once there is one. -/
structure Tracking where
  tracker : Tracker
  isCanceled : Bool
  result : Option (Result Statuses)

namespace Tracking

def empty : Tracking := ⟨.empty, false, none⟩

/-- Changes the tracker; what fails changes nothing. -/
def update (x : Tracking) (change : Tracker → Result Tracker) : Result Unit × Tracking :=
  match change x.tracker with
  | .ok tracker => (.ok (), { x with tracker })
  | .error e => (.error e, x)

def cancel (x : Tracking) : Tracking := { x with isCanceled := true }

def settle (x : Tracking) (result : Option (Result Statuses)) : Tracking := { x with result }

/-- Watches until `exchanges` requests have been made; if tasks are still pending then, the
tracking is canceled. -/
def watchUpTo (s : Settings) (patience polls exchanges : Nat) (x : Tracking) :
    Program (Option (Result Statuses)) := do
  match x.result with
  | some r => return some r
  | none =>
    match ← Program.upTo exchanges (x.tracker.watch s patience polls).run with
    | none => return some (.error .trackingCanceled)
    | some (.error e) => return some (.error e)
    | some (.ok r) => return r.map .ok

/-- Watches to the end; a canceled tracking asks nothing any more. -/
def await (s : Settings) (patience polls : Nat) (x : Tracking) :
    Program (Option (Result Statuses)) := do
  match x.isCanceled, x.result with
  | true, _ => x.watchUpTo s patience polls 0
  | false, some r => return some r
  | false, none =>
    match ← (x.tracker.watch s patience polls).run with
    | .error e => return some (.error e)
    | .ok r => return r.map .ok

end Tracking

end CloudDirector
