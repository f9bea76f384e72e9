import CloudDirector.Client.Verbs
import CloudDirector.Resource.User

/-!
# Resources of a session

What a session leads to: its own resource and user, its entry points and what is behind them, and
entities by their identifier or by a reference whose address may be stale.
-/
namespace CloudDirector
open Http Json Text

def currentSession : Action Session := do (← Program.getState).requireSession

/-- The address of an entry point of the current session. -/
def endpointUrl (e : Endpoint) : Action Url := do (← currentSession).require e

def textWithoutSlash (u : Url) : String := String.ofList (trimEnd (· == '/') u.chars)

def readSession (s : Settings) : Action (Response SessionResource) := do
  get s SessionResource.ofDocument (← currentSession).href.text

def readUser (s : Settings) : Action (Response UserInfo) := do
  let href := (← currentSession).href
  let url ← parseUrl (textWithoutSlash href ++ "/userInfo")
  get s UserInfo.ofDocument url.text

variable {α : Type}

def readEndpoint (s : Settings) (item : Decoder α) (e : Endpoint) : Action (Response α) := do
  getTyped s item (← endpointUrl e).text e.mediaType

def readEntity (s : Settings) (e : Endpoint) : Action (Response Entity) :=
  readEndpoint s Entity.ofDocument e

def readAdminOrg (s : Settings) : Action (Response Entity) := do
  let org ← readEntity s .loggedInOrg
  getLinked s Entity.ofDocument org.data "alternate" Media.adminOrganization

def organizationsOf : Decoder (List Reference) := fun d => do
  (← d.record? ["org"]).orElse "org" [] (.list Reference.ofDocument)

def readOrganizations (s : Settings) : Action (List Reference) := do
  return (← readEndpoint s organizationsOf .orgList).data

def resolveEntity (s : Settings) (id : String) : Action (Response Entity) := do
  let base ← endpointUrl .entityResolver
  let url ← parseUrl (textWithoutSlash base ++ "/" ++ id)
  getTyped s Entity.ofDocument url.text Media.entity

/-- Reads the entity with an identifier, then what its alternate link of a type leads to. -/
def readResolved (s : Settings) (item : Decoder α) (id : String) (mediaType : Option String) :
    Action (Response α) := do
  let entity ← resolveEntity s id
  let link ← requireLink entity.data "alternate" mediaType
  getAs s item link.href mediaType

/-- What an address said when it was asked for a reference: the answer, or nothing fit to return
and perhaps an error. -/
inductive HrefAnswer (α : Type) where
  | answered (r : Response α)
  | unfit (error : Option Error)

/-- Asks the address of a reference. An answer with another identifier is unfit; so is an error,
unless the server wants authentication. -/
def askHref [Linked α] (s : Settings) (item : Decoder α) (idOf : α → Option String)
    (r : Reference) : Action (HrefAnswer α) := do
  if r.href = "" then return .unfit none
  else
    match ← Action.attempt (get s item r.href) with
    | .ok response =>
      if r.id = none ∨ idOf response.data = r.id then return .answered response
      else return .unfit none
    | .error e =>
      if e.status? = some .unauthorized then throw e else return .unfit (some e)

/-- Reads the target of a reference: at its address if that has it, else by its identifier. The
answer comes with the address to which the target has moved, if it was found by its identifier
and has one. -/
def resolveReference [Linked α] (s : Settings) (item : Decoder α) (idOf : α → Option String)
    (r : Reference) : Action (Response α × Option String) := do
  match ← askHref s item idOf r with
  | .answered response => return (response, none)
  | .unfit hrefError =>
    match r.id with
    | none =>
      throw (hrefError.getD (.configuration (.other "Reference has neither href nor id")))
    | some id =>
      match ← Action.attempt (readResolved s item id r.mediaType) with
      | .ok response => return (response, Linked.href response.data)
      | .error e => throw (hrefError.getD e)

/-- The root of the newer interface: as the session advertises it, or beside the endpoint. -/
def openApiEndpoint (s : Settings) : Action Url := do
  match (← Program.getState).session.bind (·.endpoint? .openApi) with
  | some url => return url
  | none => joinUrl s.endpoint "/cloudapi"

def networkEndpoint : Action Url := endpointUrl .network

def queryKey (mediaType name : String) : String := mediaType ++ "!" ++ name

def queryAddresses : List Link → Result QueryList
  | [] => .ok []
  | link :: rest =>
    match link.mediaType, link.name with
    | some mediaType, some name => do
      let url ← parseUrl link.href
      return (queryKey mediaType name, url) :: (← queryAddresses rest)
    | _, _ => queryAddresses rest

/-- The query list, which is loaded once. -/
def queryList (s : Settings) : Action QueryList := do
  match ← Program.queries? with
  | some q => return q
  | none =>
    let list ← readEntity s .queryList
    let q := Keyed.ofList (← queryAddresses list.data.link)
    Program.keepQueries q
    return q

end CloudDirector
