import CloudDirector.Json.Record

/-!
# User information

The document that describes the user of a session. What is not declared is kept as it came.
-/
namespace CloudDirector
open Json

structure UserInfo where
  userName : Option String
  orgName : Option String
  rest : List (String × Value)
  deriving Repr, Inhabited

namespace UserInfo

def members : List String := ["userName", "orgName"]

def ofDocument : Decoder UserInfo := fun d => do
  let (r, rest) ← d.recordWithRest? members
  some {
    userName := ← r.optional "userName" .text
    orgName := ← r.optional "orgName" .text
    rest := rest }

def toJson (u : UserInfo) : Value :=
  .ofFields ([("userName", u.userName.map .string), ("orgName", u.orgName.map .string)] ++
    u.rest.map fun (k, v) => (k, some v))

end UserInfo

end CloudDirector
