import CloudDirector.ApiVersion
import CloudDirector.Credential.Basic
import CloudDirector.Http.Exchange
import CloudDirector.Time.HttpDate
import CloudDirector.Uuid

/-!
# Multisite signatures

A user who acts on behalf of another site signs each request: its method, path, date and content
type, or in the old form its method, path and date with the digest of no content.
-/
namespace CloudDirector
open Text Encoding Http Time Signature

inductive SignatureForm where
  | legacy | second
  deriving DecidableEq, Repr

namespace SignatureForm

def ofVersion (v : ApiVersion) : SignatureForm :=
  if v.atMost .lastOldSignature then .legacy else .second

def name : SignatureForm → String
  | .legacy => "Legacy"
  | .second => "V2"

end SignatureForm

/-- What a multisite signature covers. -/
structure SignedParts where
  date : String
  method : String
  path : String
  contentType : String
  deriving DecidableEq, Repr

def SignedParts.text (form : SignatureForm) (p : SignedParts) : String :=
  let target := "(request-target): " ++ p.method ++ " " ++ p.path ++ "\ndate: " ++ p.date
  match form with
  | .legacy =>
    target ++ "\ndigest: " ++ String.ofList (base64 (sha256 [])) ++ "\ncontent-length: 0"
  | .second => target ++ "\ncontent-type: " ++ p.contentType

/-- The login of a user on behalf of another site. -/
structure MultisiteLogin where
  site : Uuid
  org : Uuid
  user : String
  key : PrivateKey
  form : SignatureForm
  deriving DecidableEq

namespace MultisiteLogin

def scheme : String := "Multisite"

def make (site org : Uuid) (user orgName pem : String) (version : ApiVersion) :
    Result MultisiteLogin :=
  match PrivateKey.ofPem pem with
  | .error flaw => .error (.signing (.siteKey flaw))
  | .ok key => .ok ⟨site, org, user ++ "@" ++ orgName, key, .ofVersion version⟩

def headerWith (c : MultisiteLogin) (signature : String) : String :=
  match c.form with
  | .legacy =>
    scheme ++ " " ++ c.site.text ++ ":" ++ c.org.text ++ " " ++ signature ++ "; " ++ c.user
  | .second =>
    scheme ++ " v:2.0; " ++ c.org.text ++ "@" ++ c.site.text ++ " " ++ signature ++ "; " ++ c.user

def header (c : MultisiteLogin) (parts : SignedParts) : Result String :=
  match c.key.sign (parts.text c.form) with
  | .error flaw => .error (.signing (.sign flaw))
  | .ok signature => .ok (c.headerWith signature)

def partsOf (now : Instant) (r : Request) : SignedParts :=
  { date := now.httpDate
    method := r.method.token
    path := r.url.pathText
    contentType := (r.headers.text? Name.contentType).getD "" }

def sign (c : MultisiteLogin) (now : Instant) (r : Request) : Result Request := do
  let value ← c.header (partsOf now r)
  if isHeaderValue value then
    return { r with
      headers := (r.headers.set Name.authorization value).set Name.date now.httpDate }
  else throw (.signing .headerValue)

/-- The description, which leaves out the key. -/
def description (c : MultisiteLogin) : String :=
  describedPartly "MultisiteCredentials" [("site_id", c.site.text), ("org_id", c.org.text),
    ("user", quoted c.user), ("version", c.form.name)]

end MultisiteLogin

end CloudDirector
