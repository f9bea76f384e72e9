import CloudDirector.Json.Record

/-!
# References

A reference names another resource by its address, its identifier, or both.
-/
namespace CloudDirector
open Json

structure Reference where
  href : String
  id : Option String
  name : Option String
  mediaType : Option String
  deriving DecidableEq, Repr, Inhabited

namespace Reference

def members : List String := ["href", "id", "name", "type"]

def ofDocument : Decoder Reference := fun d => do
  let r ← d.record? members
  some {
    href := ← r.orElse "href" "" .text
    id := ← r.optional "id" .text
    name := ← r.optional "name" .text
    mediaType := ← r.optional "type" .text }

def toJson (x : Reference) : Value :=
  .ofFields [("href", some (.string x.href)), ("id", x.id.map .string),
    ("name", x.name.map .string), ("type", x.mediaType.map .string)]

/-- The name with the address, or the address alone. -/
def text (x : Reference) : String :=
  match x.name with
  | some name => name ++ " (" ++ x.href ++ ")"
  | none => x.href

end Reference

end CloudDirector
