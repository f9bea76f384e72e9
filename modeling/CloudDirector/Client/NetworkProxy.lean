import CloudDirector.Client.OpenApi

/-!
# The network proxy

Calls relative to the root of the network proxy, which speaks XML and passes requests on. It is
asked by a client of its own on the same context, which names no version and has more time.
-/
namespace CloudDirector
open Http Time

/-- The root of the network proxy, which ends in a slash. -/
def networkRoot : Action Url := do return (← networkEndpoint).withSlash

namespace NetworkProxy

def leastTimeoutSeconds : Nat := 120

def timeoutFor (timeout : Span) : Span := ⟨max timeout.nanos (leastTimeoutSeconds * 1000000000)⟩

def settings (s : Settings) : Settings :=
  { s with
    version := none
    connection := { s.connection with timeout := timeoutFor s.connection.timeout } }

/-- Opens the network proxy: its root, once its client has been set up. -/
def openRoot (s : Settings) : Action Url := do
  let root ← networkRoot
  (settings s).connection.check
  return root

def call (s : Settings) (root : Url) (method : Method) (path : String)
    (contents : Option (String × String)) : Action (Response Unit) := do
  let plan := { RequestPlan.make method (← relativeUrl root path) with
    accept := some Media.xml
    contentType := contents.map Prod.fst }
  callText (settings s) plan (contents.map Prod.snd)

end NetworkProxy

end CloudDirector
