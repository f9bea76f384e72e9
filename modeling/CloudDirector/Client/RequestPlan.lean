import CloudDirector.Credential.Credentials
import CloudDirector.Http.Checked
import CloudDirector.Url.Parser

/-!
# Request plans

What is asked of a client: the method, the address, media types, parameters of the query and
headers of the request's own.
-/
namespace CloudDirector
open Http

/-- A request before it is assembled. -/
structure RequestPlan where
  method : Method
  url : Url
  accept : Option String
  contentType : Option String
  headers : Headers
  parameters : List (String × String)
  deriving DecidableEq, Repr

namespace RequestPlan

def make (method : Method) (url : Url) : RequestPlan := ⟨method, url, none, none, .empty, []⟩

/-- The request with one more header, which replaces those of its name. -/
def withHeader (p : RequestPlan) (name value : String) : Result RequestPlan := do
  return { p with headers := ← p.headers.set? name value }

/-- The address with all parameters. -/
def fullUrl (p : RequestPlan) : Url := p.url.appendPairs p.parameters

end RequestPlan

end CloudDirector
