import CloudDirector.Encoding.Base64
import CloudDirector.Encoding.Percent
import CloudDirector.Http.Exchange
import CloudDirector.Text.Blank

/-!
# Requests on the wire and scripted servers

On its way a request loses the fragment of its address and the user of its authority, who moves
into a header, and gains the name of the client. A scripted server answers requests in the order
of its script and keeps them; a server out of reach answers none.
-/
namespace CloudDirector.Http
open Text Encoding

def userHeader (user : List Char) (password : Option (List Char)) : String :=
  "Basic " ++
    String.ofList (base64 (percentDecode user ++ [0x3a] ++ password.elim [] percentDecode))

namespace Request

def isWebAddress (u : Url) : Bool :=
  (u.scheme == ['h', 't', 't', 'p'] || u.scheme == ['h', 't', 't', 'p', 's']) &&
    (u.authority.map fun a => a.host != []).getD false

/-- The request as a server sees it, none if it cannot be sent. -/
def onWire? (agent : String) (r : Request) : Option Request :=
  if isWebAddress r.url then
    let authority := r.url.authority
    let headers := match authority with
      | some a =>
        if a.user ≠ [] ∨ a.password.isSome then
          r.headers.setIfAbsent Name.authorization (userHeader a.user a.password)
        else r.headers
      | none => r.headers
    some { r with
      url := { r.url with
        authority := authority.map fun a => { a with user := [], password := none }
        fragment := none }
      headers := headers.setIfAbsent Name.userAgent agent }
  else none

end Request

/-- A reply as it comes off the wire: names in lower case, values without spaces around them, and
no body where the status allows none. -/
def Reply.received (r : Reply) : Reply where
  status := r.status
  headers := ⟨r.headers.fields.map fun (n, v) =>
    (lower n, String.ofList (trimBoth isSpaceOrTab v.toList))⟩
  body := if r.status.code = 204 ∨ r.status.code = 304 then "" else r.body

/-- A server with what it is going to answer and what it has been asked. -/
structure Server where
  reachable : Bool
  script : List Outcome
  asked : List Request

namespace Server

def scripted (script : List Outcome) : Server := ⟨true, script, []⟩

/-- A server that no request reaches; its script stays as it is. -/
def outOfReach (script : List Outcome) : Server := ⟨false, script, []⟩

/-- The answer to a request, and the server afterwards. When the script has run out, the
connection breaks. -/
def answer (s : Server) (r : Request) : Outcome × Server :=
  if s.reachable then
    match s.script with
    | [] => (.lost, { s with asked := s.asked ++ [r] })
    | o :: rest => (o, { s with script := rest, asked := s.asked ++ [r] })
  else (.lost, s)

end Server

end CloudDirector.Http
