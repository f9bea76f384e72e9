import CloudDirector.Client.Verbs

/-!
# Waiting for a task

A task that has not ended is fetched again and again, each time where its latest snapshot says it
is. A task that ended well is the result; any other end is an error. Waiting is a matter of
patience: after so many fetches without an end there is no result.
-/
namespace CloudDirector
open Http Time

def Task.outcome (t : Task) : Result Task :=
  match t.status with
  | .error | .aborted => .error (.taskFailed t.urn t.status t.owner t.error)
  | .canceled => .error (.taskCanceled t.urn t.owner)
  | _ => .ok t

def fetchTask (s : Settings) (href : String) : Action Task := do
  return (← getTyped s Task.ofDocument href Media.task).data

/-- Waits until a task has ended, none if it has not after as many fetches as there is patience. -/
def waitFor (s : Settings) : (patience : Nat) → Task → Action (Option Task)
  | patience, t =>
    if t.status.isTerminal then t.outcome.map some
    else
      match patience with
      | 0 => return none
      | patience + 1 => do
        Program.wait s.pollInterval
        waitFor s patience (← fetchTask s t.href)

def waitForHref (s : Settings) (patience : Nat) (href : String) : Action (Option Task) := do
  waitFor s patience (← fetchTask s href)

/-- Waits until a task has ended, or for the whole of a limit. -/
def waitForWithin (s : Settings) (patience : Nat) (limit : Span) (t : Task) :
    Action (Option Task) := do
  match ← Program.within limit.nanos (waitFor s patience t).run with
  | some result => result
  | none => throw (.taskTimeout t.urn limit)

/-- The task that runs on an entity, if there is exactly one. -/
def Entity.onlyTask? (e : Entity) : Option Task :=
  match e.tasks with
  | some [t] => some t
  | _ => none

end CloudDirector
