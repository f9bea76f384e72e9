import CloudDirector.Client.RequestPlan
import CloudDirector.Program

/-!
# Assembling requests

The headers of a request come from the defaults of the client, the media types it asks for, the
number of the request, the state of authentication and the request's own plan, each replacing
what came before. Credentials that sign requests sign last. A content type is named only for a
request with a body.
-/
namespace CloudDirector
open Http Time

/-- What one attempt at a request is made of. -/
structure Attempt where
  state : AuthState
  method : Method
  url : Url
  plan : Option RequestPlan
  body : Option String

namespace Attempt

/-- The headers before the request has its number: defaults and media types. -/
def openingHeaders (s : Settings) (a : Attempt) : Result Headers := do
  let accept := (a.plan.bind RequestPlan.accept).getD Media.anyJson
  let h := s.defaults.set Name.accept (← checkValue (s.versioned accept))
  if a.body.isSome then
    let contentType := (a.plan.bind RequestPlan.contentType).getD Media.anyJson
    return h.set Name.contentType (← checkValue (s.versioned contentType))
  else return h

/-- The headers with the number of the request, unless it has none. -/
def numbered (h : Headers) (id : String) : Result Headers := do
  if id = "" then return h else return h.set Name.clientRequestId (← checkValue id)

def closing (a : Attempt) (opening : Headers) (id : String) (now : Instant) : Result Request := do
  let h ← numbered opening id
  let h := h.replaceBy (← a.state.authHeaders)
  let h := (a.plan.map fun p => h.setAll p.headers.fields).getD h
  let r : Request := ⟨a.method, a.url, h, a.body⟩
  match a.state.sessionless? with
  | some c => c.sign now r
  | none => return r

/-- The request of an attempt, given its number and the time. -/
def request (s : Settings) (a : Attempt) (id : String) (now : Instant) : Result Request := do
  a.closing (← a.openingHeaders s) id now

/-- Assembles a request; its number is drawn once the opening headers are known to be fit. -/
def prepare (s : Settings) (a : Attempt) : Action Request := do
  let opening ← a.openingHeaders s
  let id ← Program.draw s.requestIds
  let now ← Program.now
  a.closing opening id now

end Attempt

/-- The request with the login header of credentials, signed if they sign requests. -/
def withLoginHeader (c : Credentials) (now : Instant) (r : Request) : Result Request := do
  let headers ← r.headers.set? c.headerName c.headerValue
  c.sign now { r with headers }

def send (s : Settings) (r : Request) : Program (Except Failure Reply) := do
  return (← Program.exchangeOnce s.connection.userAgent r).result

/-- Sends a request once; any other status than the expected one is an error. -/
def sendExpecting (s : Settings) (expected : Status) (r : Request) : Action Reply := do
  match ← send s r with
  | .ok reply => requireStatus expected reply
  | .error f => throw f.toError

end CloudDirector
