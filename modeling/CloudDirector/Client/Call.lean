import CloudDirector.Session.Login

/-!
# Calls

A call sends its request until it succeeds or the classifier gives up. Before a request that was
denied for want of authentication is sent again, the client logs in again, unless its credentials
need no session. Each attempt is assembled from the state at its start.
-/
namespace CloudDirector
open Http Json

/-- Logs in again if the state of the failed attempt holds credentials that make sessions. -/
def renewSession (s : Settings) (state : AuthState) : Action Unit :=
  match state.credentials with
  | some c =>
    if c.isSessionless then pure ()
    else do
      match ← Action.attempt (relogin s) with
      | .ok () => pure ()
      | .error e => throw (.reloginFailed e)
  | none => pure ()

/-- What is done between a failed attempt and the next one. -/
def beforeRetry (s : Settings) (state : AuthState) (f : Failure) : Action Unit :=
  if f.status? = some .unauthorized ∧ s.relogin then renewSession s state else pure ()

/-- Attempts at a request, of which `more` may still follow: the answer and their number. -/
def attempts (s : Settings) (p : RequestPlan) (body : Option String) :
    (more attempt : Nat) → Action (Reply × Nat)
  | more, attempt => do
    let state ← Program.getState
    let request ← Attempt.prepare s ⟨state, p.method, p.fullUrl, some p, body⟩
    match ← send s request with
    | .ok reply => return (reply, attempt)
    | .error f =>
      if s.classifier.retries f attempt then
        match more with
        | 0 => throw f.toError
        | more + 1 =>
          beforeRetry s state f
          attempts s p body more (attempt + 1)
      else throw f.toError

/-- Sends a request until it succeeds or fails for good. -/
def execute (s : Settings) (p : RequestPlan) (body : Option String) : Action (Reply × Nat) :=
  attempts s p body (s.classifier.bound - 1) 1

def callText (s : Settings) (p : RequestPlan) (body : Option String) : Action (Response Unit) := do
  let (reply, n) ← execute s p body
  return ⟨(), reply.body, reply.status, reply.headers, n⟩

/-- Sends a request and leaves the answer unread. -/
def callRaw (s : Settings) (p : RequestPlan) (contents : Option Contents) :
    Action (Response Unit) := do
  callText s p (← Contents.encodeOption contents)

def call {α : Type} (s : Settings) (item : Decoder α) (p : RequestPlan)
    (contents : Option Contents) : Action (Response α) := do
  let raw ← callRaw s p contents
  raw.decode item

def callVoid (s : Settings) (p : RequestPlan) (contents : Option Contents) : Action Unit := do
  let (reply, _) ← execute s p (← Contents.encodeOption contents)
  discard (requireStatus ⟨204⟩ reply)

end CloudDirector
