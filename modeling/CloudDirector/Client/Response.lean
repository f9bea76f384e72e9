import CloudDirector.Http.Exchange
import CloudDirector.Json.Printer
import CloudDirector.Json.Reader
import CloudDirector.Json.Record
import CloudDirector.Link.Header
import CloudDirector.Error

/-!
# Responses

A successful answer with what it was read as, and how many attempts it took. Bodies of requests
are written, and bodies of answers read, as JSON.
-/
namespace CloudDirector
open Http Json

/-- A successful answer. -/
structure Response (α : Type) where
  data : α
  body : String
  status : Status
  headers : Headers
  attempts : Nat
  deriving Repr

namespace Response

variable {α β : Type}

def map (f : α → β) (r : Response α) : Response β := { r with data := f r.data }

/-- Whether it took more than one attempt. -/
def wasRetried (r : Response α) : Bool := 1 < r.attempts

/-- The first value of a header, if it can be read as text; the name may be of either case. -/
def header? (r : Response α) (name : String) : Option String :=
  (headerName? name).bind r.headers.text?

def requestId? (r : Response α) : Option String := r.headers.text? Name.requestId

def contentType? (r : Response α) : Option String := r.headers.text? Name.contentType

/-- The address of the task as which an accepted request goes on. -/
def taskHref? (r : Response α) : Option String :=
  if r.status = .accepted then r.headers.text? Name.location else none

def links (r : Response α) : List Link :=
  ((r.headers.getAll Name.link).filterMap visible?).flatMap Link.ofHeader

def decode (item : Decoder α) (r : Response Unit) : Result (Response α) :=
  match (Document.ofText? r.body).bind item with
  | some data => .ok (r.map fun _ => data)
  | none => .error (.undecodable r.status r.body)

end Response

inductive Contents where
  | json (v : Value)
  /-- Members whose keys are no texts, which cannot be written. -/
  | badKeys

namespace Contents

def encode : Contents → Result String
  | .json v => .ok v.text
  | .badKeys => .error (.unserializable "key must be a string")

def encodeOption : Option Contents → Result (Option String)
  | none => .ok none
  | some c => c.encode.map some

end Contents

end CloudDirector
