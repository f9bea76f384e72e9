import CloudDirector.ApiVersion
import CloudDirector.Client.Retry
import CloudDirector.Http.Checked
import CloudDirector.Session.Endpoint
import CloudDirector.Time.Span

/-!
# Settings of clients

How a client is configured. Settings are given one after the other, and the first that does not
fit ends the configuration.
-/
namespace CloudDirector
open Text Http Time

inductive RequestIds where
  | off
  | random
  | fixed (id : String)
  /-- Numbers 1, 2, 3, … after `start`; `counter` says which count goes on. -/
  | counted (start : String) (counter : Nat)
  deriving DecidableEq, Repr

/-- The version of the interface as it is compared and as it is sent. -/
structure VersionLabel where
  version : ApiVersion
  label : String
  deriving DecidableEq, Repr

/-- The label of a version: its text without spaces around it. -/
def VersionLabel.ofText (text : String) : Result VersionLabel := do
  let label := trim text
  return ⟨← ApiVersion.ofText label, label⟩

/-- Deadlines and identification of the connection. -/
structure Connection where
  timeout : Span
  connectTimeout : Span
  userAgent : String
  acceptsAnyCertificate : Bool
  deriving DecidableEq, Repr

namespace Connection

def standard : Connection := ⟨.ofMillis 90000, .ofMillis 30000, "vcd-client", false⟩

/-- The connection can be set up when it can name its user. -/
def check (c : Connection) : Result Unit :=
  if isHeaderValue c.userAgent then .ok () else .error (.configuration .engine)

end Connection

structure Settings where
  endpoint : Url
  version : Option VersionLabel
  locations : Option String
  defaults : Headers
  classifier : Classifier
  relogin : Bool
  requestIds : RequestIds
  pollInterval : Span
  bulkPollInterval : Span
  connection : Connection

namespace Settings

/-- A media type with the version and the locations that the client asks for. -/
def versioned (s : Settings) (mediaType : String) : String :=
  mediaType ++ (s.version.elim "" fun v => ";version=" ++ v.label) ++
    (s.locations.elim "" fun l => ";multisite=" ++ l)

/-- The address of a resource of the interface. -/
def apiUrl (s : Settings) (path : String) : Result Url := joinUrl s.endpoint path

end Settings

structure Draft where
  endpoint : Option Url
  version : Option VersionLabel
  locations : Option String
  defaults : Headers
  retryLimit : Nat
  classifier : Option Classifier
  relogin : Bool
  requestIds : RequestIds
  pollInterval : Span
  bulkPollInterval : Span
  connection : Connection

namespace Draft

def empty : Draft where
  endpoint := none
  version := none
  locations := none
  defaults := .empty
  retryLimit := 1
  classifier := none
  relogin := true
  requestIds := .random
  pollInterval := .ofMillis 2000
  bulkPollInterval := .ofMillis 5000
  connection := .standard

/-- Sets the address of the interface; its path ends in a slash. -/
def withEndpoint (d : Draft) (text : String) : Result Draft := do
  return { d with endpoint := some (← parseUrl text).withSlash }

def withVersion (d : Draft) (text : String) : Result Draft := do
  return { d with version := some (← VersionLabel.ofText text) }

/-- Adds a header that goes along with every request. -/
def withDefault (d : Draft) (name value : String) : Result Draft := do
  return { d with defaults := ← d.defaults.set? name value }

def finish (d : Draft) : Result Settings :=
  match d.endpoint with
  | none => .error (.configuration .endpointMissing)
  | some endpoint => do
    d.connection.check
    return {
      endpoint := endpoint
      version := d.version
      locations := d.locations
      defaults := d.defaults
      classifier := d.classifier.getD (.denied d.retryLimit)
      relogin := d.relogin
      requestIds := d.requestIds
      pollInterval := d.pollInterval
      bulkPollInterval := d.bulkPollInterval
      connection := d.connection }

end Draft

def Settings.ofEndpoint (endpoint : Url) : Settings where
  endpoint := endpoint
  version := none
  locations := none
  defaults := .empty
  classifier := .denied 1
  relogin := true
  requestIds := .random
  pollInterval := .ofMillis 2000
  bulkPollInterval := .ofMillis 5000
  connection := .standard

theorem Draft.finish_ofEndpoint (endpoint : Url) :
    ({ Draft.empty with endpoint := some endpoint } : Draft).finish = .ok (.ofEndpoint endpoint) := by
  have hcheck : Connection.standard.check = .ok () := if_pos (by decide)
  simp only [Draft.finish, Draft.empty, hcheck]
  rfl

end CloudDirector
