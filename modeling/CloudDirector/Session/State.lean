import CloudDirector.Credential.Credentials
import CloudDirector.Http.Checked
import CloudDirector.Keyed
import CloudDirector.Session.Endpoint

/-!
# Security contexts

The state of authentication that clients share: the credentials of the last login and what it
gave, and the tenant to which requests are limited. The state decides which authentication
headers a request carries.
-/
namespace CloudDirector
open Text Http

/-- An exported session: its token, and its cookie if it has one. -/
structure SessionToken where
  token : String
  cookie : Option String
  deriving DecidableEq, Repr

/-- The description of a session token, which shows nothing of it. -/
def SessionToken.description (_ : SessionToken) : String :=
  "SessionToken " ++ String.ofList [Char.ofNat 0x7b, ' ', '.', '.', ' ', Char.ofNat 0x7d]

structure AuthState where
  credentials : Option Credentials
  jwt : Option String
  authContext : Option String
  tenant : Option String
  token : Option String
  /-- Cookies by their names. -/
  cookies : List (String × String)
  session : Option Session
  deriving DecidableEq

namespace AuthState

def ofTenant (tenant : Option String) : AuthState := ⟨none, none, none, tenant, none, [], none⟩

def empty : AuthState := ofTenant none

/-- The credentials that authenticate each request by themselves. -/
def sessionless? (s : AuthState) : Option Credentials := s.credentials.filter (·.isSessionless)

def cookieNames : List String := [CookieName.accessToken, CookieName.session, CookieName.legacy]

/-- The value of the cookie header; empty without cookies. -/
def cookieText (s : AuthState) : String :=
  String.intercalate "; " (cookieNames.filterMap fun name =>
    (s.cookies.lookup name).map fun value => name ++ "=" ++ value)

/-- The headers that authenticate: those of sessionless credentials, else of an access token,
else of the session token. -/
def identityHeaders (s : AuthState) : Result Headers :=
  match s.sessionless? with
  | some c => Headers.empty.set? c.headerName c.headerValue
  | none =>
    match s.jwt with
    | some jwt => do
      let h ← Headers.empty.set? Name.authorization ("Bearer " ++ jwt)
      match s.authContext with
      | some context => h.set? Name.authContext context
      | none => return h
    | none =>
      match s.token with
      | some token => Headers.empty.set? Name.legacyToken token
      | none => .ok .empty

def authHeaders (s : AuthState) : Result Headers := do
  let h ← s.identityHeaders
  let h ← match s.tenant with
    | some tenant => h.set? Name.tenantContext tenant
    | none => pure h
  if s.sessionless?.isNone ∧ s.cookieText ≠ "" then h.set? Name.cookie s.cookieText else return h

/-- The state without all that the last login gave. -/
def cleared (s : AuthState) : AuthState := { ofTenant s.tenant with credentials := s.credentials }

def sessionToken? (s : AuthState) : Option SessionToken :=
  s.token.map fun token => ⟨token, s.cookies.lookup CookieName.legacy⟩

/-- The session, or that there is none. -/
def requireSession (s : AuthState) : Result Session :=
  match s.session with
  | some session => .ok session
  | none => .error .notLoggedIn

/-- The description of a state, which shows of secrets only whether they are there. -/
def description (s : AuthState) : String :=
  described "AuthState" [
    ("credentials", describedOption (s.credentials.map Credentials.description)),
    ("has_jwt", describedBool s.jwt.isSome),
    ("auth_context", quotedOption s.authContext),
    ("tenant_context", quotedOption s.tenant),
    ("has_auth_token", describedBool s.token.isSome),
    ("cookies", describedTexts (s.cookies.map Prod.fst)),
    ("session", quotedOption (s.session.map fun x => x.href.text))]

end AuthState

/-- The name and value of a cookie that a header sets, if its name is kept. -/
def keptCookie (value : String) : Option (String × String) := do
  let first := (value.toList.takeWhile (· != ';'))
  let (name, value) ← cutFirst (· == '=') first
  let name := String.ofList (trimBlank name)
  guard (AuthState.cookieNames.contains name)
  some (name, String.ofList (trimBlank value))

/-- The cookies that a reply sets, the last of a name counting. -/
def sessionCookies (h : Headers) : List (String × String) :=
  Keyed.ofList (((h.getAll Name.setCookie).filterMap visible?).filterMap keptCookie)

end CloudDirector
