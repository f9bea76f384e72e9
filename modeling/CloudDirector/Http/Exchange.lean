import CloudDirector.Http.Headers
import CloudDirector.Http.Names
import CloudDirector.Http.Status
import CloudDirector.Url.Basic

/-!
# Requests and replies

A request as it is handed to the network, and a reply as it comes back.
-/
namespace CloudDirector.Http

structure Method where
  token : String
  deriving DecidableEq, Repr, Inhabited

namespace Method

def get : Method := ⟨"GET"⟩
def put : Method := ⟨"PUT"⟩
def post : Method := ⟨"POST"⟩
def delete : Method := ⟨"DELETE"⟩
def options : Method := ⟨"OPTIONS"⟩

def ofText? (s : String) : Option Method :=
  if s.toList ≠ [] ∧ s.toList.all isTokenChar then some ⟨s⟩ else none

end Method

structure Request where
  method : Method
  url : Url
  headers : Headers
  body : Option String
  deriving DecidableEq, Repr

structure Reply where
  status : Status
  headers : Headers
  body : String
  deriving DecidableEq, Repr, Inhabited

namespace Reply

/-- The first value of a header, if it can be read as text. -/
def header? (r : Reply) (name : String) : Option String := r.headers.text? name

end Reply

/-- What became of a request: a reply, no answer before the deadline, or a broken connection. -/
inductive Outcome where
  | reply (r : Reply)
  | timedOut
  | lost
  deriving DecidableEq, Repr, Inhabited

end CloudDirector.Http
