import CloudDirector.Credential.Multisite
import CloudDirector.Credential.Saml

/-!
# Credentials

Credentials give the header with which a client logs in. Sessionless ones authenticate each
request by themselves, without a session. Any credentials may be marked as those of a provider.
-/
namespace CloudDirector
open Text Http Time

/-- A login header of the user's own making. -/
structure CustomLogin where
  headerName : String
  value : String
  sessionless : Bool
  deriving DecidableEq, Repr

inductive Credentials where
  | basic (c : BasicLogin)
  | bearer (c : BearerLogin)
  | saml (c : SamlLogin)
  | multisite (c : MultisiteLogin)
  | custom (c : CustomLogin)
  | provider (inner : Credentials)
  deriving DecidableEq

namespace Credentials

def usualHeader : String := "Authorization"

/-- The name of the login header, as it was given. -/
def headerName : Credentials → String
  | .custom c => c.headerName
  | .provider inner => inner.headerName
  | _ => usualHeader

def headerValue : Credentials → String
  | .basic c => c.header
  | .bearer c => c.header
  | .saml c => c.header
  | .multisite _ => MultisiteLogin.scheme
  | .custom c => c.value
  | .provider inner => inner.headerValue

/-- Whether the header alone authenticates a request. -/
def isSessionless : Credentials → Bool
  | .saml _ | .multisite _ => true
  | .custom c => c.sessionless
  | .provider inner => inner.isSessionless
  | _ => false

def isProvider : Credentials → Bool
  | .provider _ => true
  | _ => false

/-- Signs a request, if the kind of credentials signs requests. -/
def sign (now : Instant) (r : Request) : Credentials → Result Request
  | .multisite c => c.sign now r
  | .provider inner => inner.sign now r
  | _ => .ok r

/-- The description, which leaves out all secrets. -/
def description : Credentials → String
  | .basic c => c.description
  | .bearer c => c.description
  | .saml c => c.description
  | .multisite c => c.description
  | .custom _ => "Custom"
  | .provider inner => described "ProviderCredentials" [("inner", inner.description)]

end Credentials

end CloudDirector
