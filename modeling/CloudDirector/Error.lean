import CloudDirector.Http.Status
import CloudDirector.Resource.Task
import CloudDirector.Signature.PrivateKey
import CloudDirector.Text.Description
import CloudDirector.Time.Span
import CloudDirector.Url.Fault

/-!
# Errors

Everything that can go wrong in a call. An error says what the server said as far as it is known:
the status, the number of the request, the error detail and the text of the answer.
-/
namespace CloudDirector
open Http Time Text Signature

/-- What can be wrong with a configuration or a request. -/
inductive ConfigurationFault where
  | version (text : String)
  | headerName
  | headerValue
  | endpointMissing
  | engine
  | taskStatus (text : String)
  | noCommonVersion (preferred offered : List String)
  | other (text : String)
  deriving DecidableEq, Repr

def ConfigurationFault.message : ConfigurationFault → String
  | .version text => "Invalid API version: " ++ text
  | .headerName => "Invalid header name: invalid HTTP header name"
  | .headerValue => "Invalid header value: failed to parse header value"
  | .endpointMissing => "Endpoint is required"
  | .engine => "Failed to build HTTP client: builder error"
  | .taskStatus text => "Unknown task status: " ++ text
  | .noCommonVersion preferred offered =>
    "No preferred API version is supported by the server. Preferred: " ++
      describedTexts preferred ++
      "; supported: " ++ describedTexts offered
  | .other text => text

/-- What can be wrong with a private key or a signature. -/
inductive SigningFault where
  | holderKey (flaw : KeyFlaw)
  | siteKey (flaw : KeyFlaw)
  | sign (flaw : SignFlaw)
  | headerValue
  | other (text : String)
  deriving DecidableEq, Repr

def SigningFault.message : SigningFault → String
  | .holderKey flaw => "Invalid private key: " ++ flaw.name
  | .siteKey flaw => "Supplied key is not a valid PEM encoded private key: " ++ flaw.name
  | .sign flaw => flaw.name
  | .headerValue => "failed to parse header value"
  | .other text => text

structure WantedLink where
  href : String
  rel : String
  mediaType : Option String
  deriving DecidableEq, Repr

def WantedLink.text (l : WantedLink) : String :=
  "with rel '" ++ l.rel ++ "' and type " ++ quotedOption l.mediaType ++ " on " ++ l.href

/-- Everything that can go wrong in a call. -/
inductive Error where
  | network
  | timeout
  | server (status : Status) (requestId : Option String) (detail : Option ErrorDetail)
      (text : Option String) (body : String)
  | unprocessable (status : Status) (requestId : Option String) (body : String) (reason : String)
  | unexpectedStatus (expected actual : Status) (requestId : Option String) (body : String)
  | undecodable (status : Status) (body : String)
  | notLoggedIn
  | noCredentials
  | missingToken
  | reloginFailed (source : Error)
  | missingLink (wanted : WantedLink)
  | multipleLinks (wanted : WantedLink)
  | missingRecord (query : String)
  | multipleRecords (query : String)
  | taskFailed (task : String) (status : TaskStatus) (owner : Option Reference)
      (detail : Option ErrorDetail)
  | taskCanceled (task : String) (owner : Option Reference)
  | taskTimeout (task : String) (limit : Span)
  | trackerSealed
  | trackingCanceled
  | configuration (fault : ConfigurationFault)
  | unserializable (text : String)
  | invalidUrl (fault : Url.Fault)
  | signing (fault : SigningFault)
  deriving DecidableEq, Repr

abbrev Result (α : Type) := Except Error α

namespace Result

variable {α β : Type}

instance instDecidableEq [DecidableEq α] : DecidableEq (Result α)
  | .ok a, .ok b => decidable_of_iff (a = b) (by rw [Except.ok.injEq])
  | .error e, .error f => decidable_of_iff (e = f) (by rw [Except.error.injEq])
  | .ok _, .error _ => isFalse nofun
  | .error _, .ok _ => isFalse nofun

@[simp] theorem pure_eq (a : α) : (pure a : Result α) = .ok a := rfl

@[simp] theorem throw_eq (e : Error) : (throw e : Result α) = .error e := rfl

@[simp] theorem ok_bind (a : α) (f : α → Result β) : ((.ok a : Result α) >>= f) = f a := rfl

@[simp] theorem error_bind (e : Error) (f : α → Result β) :
    ((.error e : Result α) >>= f) = .error e := rfl

theorem exists_of_isOk {x : Result α} (h : x.isOk = true) : ∃ a, x = .ok a := by
  cases x with
  | ok a => exact ⟨a, rfl⟩
  | error e => cases h

theorem bind_eq_ok {x : Result α} {f : α → Result β} {b : β} :
    x >>= f = .ok b ↔ ∃ a, x = .ok a ∧ f a = .ok b := by
  cases x <;> simp

theorem map_eq_ok {x : Result α} {f : α → β} {b : β} :
    x.map f = .ok b ↔ ∃ a, x = .ok a ∧ f a = b := by
  cases x <;> simp [Except.map]

end Result

namespace Error

/-- What the server said in a failure. -/
def description (detail : Option ErrorDetail) (text : Option String) : String :=
  match detail, text with
  | some e, _ => e.text
  | none, some t => t
  | none, none => "<empty response>"

/-- The wording of an error. Network and decoding errors have a wording of their own nature, of
which only the start is fixed. -/
def message : Error → String
  | .network => "Network error"
  | .timeout => "Request timed out"
  | .server status requestId detail text _ =>
    "Server error " ++ status.text ++ " (request id " ++ requestId.getD "-" ++ "): " ++
      description detail text
  | .unprocessable status _ _ reason =>
    "Unprocessable error response (status " ++ status.text ++ "): " ++ reason
  | .unexpectedStatus expected actual _ _ =>
    "Expected status " ++ expected.text ++ " but received " ++ actual.text
  | .undecodable status _ => "Failed to deserialize response (status " ++ status.text ++ ")"
  | .notLoggedIn => "Not logged in"
  | .noCredentials => "No credentials available to log in with"
  | .missingToken => "Login response did not include an authentication token"
  | .reloginFailed source => "Re-authentication failed: " ++ source.message
  | .missingLink wanted => "No link " ++ wanted.text
  | .multipleLinks wanted => "Multiple links " ++ wanted.text
  | .missingRecord query => "No record matched query " ++ query
  | .multipleRecords query => "More than one record matched query " ++ query
  | .taskFailed task status _ detail =>
    "Task " ++ task ++ " finished with status " ++ status.label ++ ": " ++
      (detail.map ErrorDetail.text).getD "<no detail>"
  | .taskCanceled task _ => "Task " ++ task ++ " was canceled"
  | .taskTimeout task limit => "Task " ++ task ++ " did not finish within " ++ limit.text
  | .trackerSealed => "Task tracker is sealed; no further tasks can be tracked"
  | .trackingCanceled => "Task tracking was canceled"
  | .configuration fault => "Configuration error: " ++ fault.message
  | .unserializable text => "Failed to serialize request: " ++ text
  | .invalidUrl fault => "Invalid URL: " ++ fault.message
  | .signing fault => "Signing failed: " ++ fault.message

def isWorded : Error → Bool
  | .network | .undecodable _ _ => false
  | .reloginFailed source => source.isWorded
  | _ => true

/-- The status of the answer, through failed re-logins. -/
def status? : Error → Option Status
  | .server status _ _ _ _ | .unprocessable status _ _ _ | .undecodable status _ => some status
  | .unexpectedStatus _ actual _ _ => some actual
  | .reloginFailed source => source.status?
  | _ => none

def requestId? : Error → Option String
  | .server _ id _ _ _ | .unprocessable _ id _ _ | .unexpectedStatus _ _ id _ => id
  | .reloginFailed source => source.requestId?
  | _ => none

def detail? : Error → Option ErrorDetail
  | .server _ _ detail _ _ | .taskFailed _ _ _ detail => detail
  | _ => none

/-- The text of the answer. -/
def body? : Error → Option String
  | .server _ _ _ _ body | .unprocessable _ _ body _ | .unexpectedStatus _ _ _ body
  | .undecodable _ body => some body
  | _ => none

def isDenied (e : Error) : Bool := (e.status?.map Status.isDenied).getD false

end Error

end CloudDirector
