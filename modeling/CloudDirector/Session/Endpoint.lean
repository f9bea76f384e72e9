import CloudDirector.Http.Names
import CloudDirector.Link.Find
import CloudDirector.Resource.Session
import CloudDirector.Url.Parser

/-!
# Sessions and their endpoints

A session resource advertises entry points, each by a link with a relation and a media type of
its own. An entry point that is not advertised is missed only when it is asked for.
-/
namespace CloudDirector
open Http

/-- The entry points that a session may advertise. -/
inductive Endpoint where
  | entityResolver | loggedInOrg | orgList | queryList | admin | apiExtensibility | extension
  | openApi | network
  deriving DecidableEq, Repr

namespace Endpoint

/-- All entry points, in the order in which they are looked for. -/
def all : List Endpoint :=
  [.entityResolver, .loggedInOrg, .orgList, .queryList, .admin, .apiExtensibility, .extension,
    .openApi, .network]

def name : Endpoint → String
  | .entityResolver => "EntityResolver"
  | .loggedInOrg => "LoggedInOrg"
  | .orgList => "OrgList"
  | .queryList => "QueryList"
  | .admin => "Admin"
  | .apiExtensibility => "ApiExtensibility"
  | .extension => "Extension"
  | .openApi => "OpenApi"
  | .network => "Network"

def ofName? (s : String) : Option Endpoint := all.find? (·.name == s)

/-- The relation of the link to an entry point. -/
def rel : Endpoint → String
  | .entityResolver => "entityResolver"
  | .apiExtensibility => "down:extensibility"
  | .openApi => "openapi"
  | .network => "nsx"
  | _ => "down"

def mediaType : Endpoint → String
  | .entityResolver => Media.entity
  | .loggedInOrg => Media.organization
  | .orgList => Media.organizationList
  | .queryList => Media.queryList
  | .admin => Media.admin
  | .apiExtensibility => Media.apiExtensibility
  | .extension => Media.extension
  | .openApi => Media.json
  | .network => Media.xml

end Endpoint

def parseUrl (text : String) : Result Url := (Url.ofText text).mapError .invalidUrl

def joinUrl (base : Url) (text : String) : Result Url := (base.join text).mapError .invalidUrl

/-- What a client knows of its session. -/
structure Session where
  href : Url
  org : Option String
  user : Option String
  endpoints : List (Endpoint × Url)
  deriving DecidableEq, Repr

namespace Session

/-- The address of an entry point of a session resource, none if it is not advertised. -/
def advertised (r : SessionResource) (e : Endpoint) : Result (Option (Endpoint × Url)) := do
  match ← findLink r e.rel (some e.mediaType) with
  | none => return none
  | some link => return some (e, ← parseUrl link.href)

/-- The session that a resource describes; without an address of its own it has the `fallback`. -/
def ofResource (r : SessionResource) (fallback : Url) : Result Session := do
  let href ← match r.href with
    | some href => parseUrl href
    | none => pure fallback
  let endpoints ← Endpoint.all.mapM (advertised r)
  return ⟨href, r.org, r.user, endpoints.filterMap id⟩

/-- The address of an entry point. -/
def endpoint? (s : Session) (e : Endpoint) : Option Url := s.endpoints.lookup e

/-- The address of an entry point, or the link that is missing. -/
def require (s : Session) (e : Endpoint) : Result Url :=
  match s.endpoint? e with
  | some url => .ok url
  | none => .error (.missingLink ⟨s.href.text, e.rel, some e.mediaType⟩)

end Session

end CloudDirector
