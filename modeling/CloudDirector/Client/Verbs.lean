import CloudDirector.Client.Call
import CloudDirector.Resource.Entity
import CloudDirector.Resource.Versions

/-!
# Verbs

Calls on an address, on the target of a link of a resource, and on the target of a reference.
-/
namespace CloudDirector
open Http Json

/-- A request to an address, asking for and sending a media type if one is named. -/
def planFor (method : Method) (href : String) (mediaType : Option String) : Result RequestPlan := do
  return { RequestPlan.make method (← parseUrl href) with
    accept := mediaType, contentType := mediaType }

def sendingPlan (method : Method) (href mediaType : String) : Result RequestPlan := do
  return { RequestPlan.make method (← parseUrl href) with contentType := some mediaType }

/-- A parameter that is a truth value, if it is given. -/
private def flagParameter (name : String) (flag : Option Bool) : List (String × String) :=
  (flag.map fun b => (name, if b then "true" else "false")).toList

def deletingPlan (href : String) (force recursive : Option Bool) : Result RequestPlan := do
  return { RequestPlan.make .delete (← parseUrl href) with
    parameters := flagParameter "force" force ++ flagParameter "recursive" recursive }

variable {α : Type}

/-- Reads what is at an address, as any JSON or as a media type. -/
def getAs (s : Settings) (item : Decoder α) (href : String) (mediaType : Option String) :
    Action (Response α) := do
  call s item (← planFor .get href mediaType) none

/-- Reads what is at an address. -/
def get (s : Settings) (item : Decoder α) (href : String) : Action (Response α) :=
  getAs s item href none

def getTyped (s : Settings) (item : Decoder α) (href mediaType : String) : Action (Response α) :=
  getAs s item href (some mediaType)

/-- Makes a request without contents and leaves the answer unread. -/
def plainRaw (s : Settings) (method : Method) (href : String) : Action (Response Unit) := do
  callRaw s (← planFor method href none) none

/-- Makes a request without contents that has to be answered without content. -/
def plainVoid (s : Settings) (method : Method) (href : String) : Action Unit := do
  callVoid s (← planFor method href none) none

/-- Makes a request without contents and reads the answer. -/
def plain (s : Settings) (item : Decoder α) (method : Method) (href : String) :
    Action (Response α) := do
  call s item (← planFor method href none) none

def submit (s : Settings) (item : Decoder α) (method : Method) (href mediaType : String)
    (c : Contents) : Action (Response α) := do
  call s item (← sendingPlan method href mediaType) (some c)

/-- Sends contents and leaves the answer unread. -/
def submitRaw (s : Settings) (method : Method) (href mediaType : String) (c : Contents) :
    Action (Response Unit) := do
  callRaw s (← sendingPlan method href mediaType) (some c)

def submitVoid (s : Settings) (method : Method) (href mediaType : String) (c : Contents) :
    Action Unit := do
  callVoid s (← sendingPlan method href mediaType) (some c)

variable {ρ : Type} [Linked ρ]

def getLinked (s : Settings) (item : Decoder α) (resource : ρ) (rel mediaType : String) :
    Action (Response α) := do
  let link ← requireLink resource rel (some mediaType)
  getTyped s item link.href mediaType

def submitLinked (s : Settings) (item : Decoder α) (method : Method) (resource : ρ)
    (rel mediaType : String) (c : Contents) : Action (Response α) := do
  let link ← requireLink resource rel (some mediaType)
  submit s item method link.href mediaType c

def deleteReferenced (s : Settings) (item : Decoder α) (r : Reference)
    (force recursive : Option Bool) : Action (Response α) := do
  call s item (← deletingPlan r.href force recursive) none

/-- Deletes a resource through its own link for it. -/
def remove (s : Settings) (resource : ρ) (force recursive : Option Bool) :
    Action (Response Task) := do
  let link ← requireLink resource "remove" none
  call s Task.ofDocument (← deletingPlan link.href force recursive) none

def serverStatus (s : Settings) : Action (Response Unit) := do
  let plan ← (RequestPlan.make .get (← s.apiUrl "server_status")).withHeader Name.accept "*/*"
  callRaw s plan none

def versions (s : Settings) : Action (Response SupportedVersions) := do
  get s SupportedVersions.ofDocument (← s.apiUrl "versions").text

/-- The settings of a draft, or those with a version that the server shares: the listing is asked
for by a client without a version, on a context of its own. -/
def Draft.negotiate (d : Draft) (preferred : List String) : Action Settings := do
  let bootstrap ← { d with version := none }.finish
  let (listing, _) ← Program.isolate .empty none (versions bootstrap).run
  let listing ← listing
  match listing.data.negotiate preferred with
  | some chosen => (← d.withVersion chosen).finish
  | none =>
    throw (.configuration (.noCommonVersion preferred (listing.data.listed.map (·.version))))

end CloudDirector
