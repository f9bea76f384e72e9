import CloudDirector.Client.Assembly
import CloudDirector.Client.Response

/-!
# Logging in and out

A login posts the login header and takes token, cookies and session from the answer. Other ways
to a session join one that exists. The context changes only when everything has succeeded, and
then as a whole; the tenant stays. A log-out clears the context whatever the server says.
-/
namespace CloudDirector
open Http Json

def sessionsPath : String := "sessions"

def sessionPath : String := "session"

def filledHeader (r : Reply) (name : String) : Option String := (r.header? name).filter (· ≠ "")

def sessionOfReply (s : Settings) (r : Reply) : Result Session :=
  match (Document.ofText? r.body).bind SessionResource.ofDocument with
  | none => .error (.undecodable r.status r.body)
  | some resource => do Session.ofResource resource (← s.apiUrl sessionPath)

/-- What a login with credentials installs, given its answer. -/
def stateOfLogin (s : Settings) (c : Credentials) (tenant : Option String) (r : Reply) :
    Result AuthState :=
  match filledHeader r Name.legacyToken with
  | none => .error .missingToken
  | some token => do
    let session ← sessionOfReply s r
    return {
      credentials := some c
      jwt := filledHeader r Name.accessToken
      authContext := none
      tenant := tenant
      token := some token
      cookies := sessionCookies r.headers
      session := some session }

def login (s : Settings) (c : Credentials) : Action Unit := do
  let url ← s.apiUrl sessionsPath
  let current ← Program.getState
  let bare ← Attempt.prepare s ⟨.ofTenant current.tenant, .post, url, none, none⟩
  let request ← withLoginHeader c (← Program.now) bare
  let reply ← sendExpecting s .ok request
  let state ← stateOfLogin s c current.tenant reply
  Program.install state

/-- Logs in again with the credentials of the last login. -/
def relogin (s : Settings) : Action Unit := do
  match (← Program.getState).credentials with
  | some c => login s c
  | none => throw .noCredentials

def joinSession (s : Settings) (candidate : AuthState) : Action Unit := do
  let url ← s.apiUrl sessionPath
  let request ← Attempt.prepare s ⟨candidate, .get, url, none, none⟩
  let reply ← sendExpecting s .ok request
  let session ← sessionOfReply s reply
  Program.install { candidate with session := some session }

/-- Takes on credentials: sessionless ones only look at the session, others log in. -/
def setCredentials (s : Settings) (c : Credentials) : Action Unit := do
  if c.isSessionless then
    let current ← Program.getState
    joinSession s { AuthState.ofTenant current.tenant with credentials := some c }
  else login s c

def loginWithToken (s : Settings) (t : SessionToken) : Action Unit := do
  let current ← Program.getState
  joinSession s { AuthState.ofTenant current.tenant with
    token := some t.token
    cookies := (t.cookie.map fun v => (CookieName.legacy, v)).toList }

/-- Joins the session of an access token, in the organization that is named. -/
def loginWithJwt (s : Settings) (jwt : String) (context : Option String) : Action Unit := do
  let current ← Program.getState
  joinSession s { AuthState.ofTenant current.tenant with
    jwt := some jwt
    authContext := context }

def deleteSession (s : Settings) : Action Unit := do
  let url ← s.apiUrl sessionPath
  let state ← Program.getState
  let request ← Attempt.prepare s ⟨state, .delete, url, none, none⟩
  discard (sendExpecting s ⟨204⟩ request)

/-- Logs out: the context is cleared, and the answer says what became of the session. -/
def logout (s : Settings) : Action Unit := do
  let result ← Action.attempt (deleteSession s)
  Program.modify AuthState.cleared
  result

def setTenant (tenant : Option String) : Program Unit :=
  Program.modify fun s => { s with tenant }

def clearContext : Program Unit := Program.modify AuthState.cleared

/-- Joins or makes a session from the state of another client, on the context of its own that a
duplicate begins with. -/
def joinAs (s : Settings) (newSession : Bool) (existing : AuthState) : Action Unit := do
  if newSession then
    match existing.credentials with
    | some c => setCredentials s c
    | none => throw .noCredentials
  else
    match existing.jwt, existing.sessionToken? with
    | some jwt, _ => loginWithJwt s jwt existing.authContext
    | none, some token => loginWithToken s token
    | none, none => throw .notLoggedIn

/-- The context of a duplicate: with a session of its own, or in the same one. -/
def duplicate (s : Settings) (newSession : Bool) : Action AuthState := do
  s.connection.check
  let existing ← Program.getState
  let (result, state) ←
    Program.isolate (.ofTenant existing.tenant) none (joinAs s newSession existing).run
  result
  return state

end CloudDirector
