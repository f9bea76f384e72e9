import CloudDirector.Session.Resources
import CloudDirector.Task.Wait

/-!
# The newer interface

Calls relative to the root of the newer interface, which speaks plain JSON and has logins of its
own. The context is that of the client.
-/
namespace CloudDirector
open Http Json Text

/-- A path relative to a root; slashes before it do not count. -/
def relativeUrl (root : Url) (path : String) : Result Url :=
  joinUrl root (String.ofList (trimStart (· == '/') path.toList))

/-- The root of the newer interface, which ends in a slash. -/
def openApiRoot (s : Settings) : Action Url := do return (← openApiEndpoint s).withSlash

namespace OpenApi

def plan (root : Url) (method : Method) (path : String) : Result RequestPlan := do
  return { RequestPlan.make method (← relativeUrl root path) with
    accept := some Media.json, contentType := some Media.json }

variable {α : Type}

/-- Makes a request and reads the answer. -/
def call (s : Settings) (item : Decoder α) (root : Url) (method : Method) (path : String)
    (contents : Option Contents) : Action (Response α) := do
  CloudDirector.call s item (← plan root method path) contents

/-- Makes a request and leaves the answer unread. -/
def callRaw (s : Settings) (root : Url) (method : Method) (path : String)
    (contents : Option Contents) : Action (Response Unit) := do
  CloudDirector.callRaw s (← plan root method path) contents

def task (s : Settings) (r : Response α) : Action (Option Task) :=
  match r.taskHref? with
  | some href => return some (← fetchTask s href)
  | none => return none

def sessionsPath (provider : Bool) : String :=
  if provider then "1.0.0/sessions/provider" else "1.0.0/sessions"

/-- What a login changes: the credentials and the access token. -/
def loggedIn (c : Credentials) (jwt : String) (s : AuthState) : AuthState :=
  { s with credentials := some c, jwt := some jwt, authContext := none }

/-- Logs in through the newer interface and takes on the access token of the answer. -/
def login (s : Settings) (root : Url) (c : Credentials) : Action Unit := do
  let p ← plan root .post (sessionsPath c.isProvider)
  let current ← Program.getState
  let bare ← Attempt.prepare s ⟨.ofTenant current.tenant, .post, p.url, some p, none⟩
  let request ← withLoginHeader c (← Program.now) bare
  let reply ← sendExpecting s .ok request
  match filledHeader reply Name.accessToken with
  | some jwt => Program.modify (loggedIn c jwt)
  | none => throw .missingToken

end OpenApi

end CloudDirector
