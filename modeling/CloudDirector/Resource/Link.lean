import CloudDirector.Json.Record

/-!
# Links

A link has a relation, a target and optionally a media type and a name. Resources that carry an
address of their own and links are `Linked`.
-/
namespace CloudDirector
open Json

structure Link where
  rel : String
  href : String
  mediaType : Option String
  name : Option String
  deriving DecidableEq, Repr, Inhabited

/-- Resources with an address and links. -/
class Linked (α : Type) where
  href : α → Option String
  links : α → List Link

/-- The address of a resource for a message; empty if it has none. -/
def Linked.hrefText {α : Type} [Linked α] (r : α) : String := (Linked.href r).getD ""

namespace Link

def members : List String := ["rel", "href", "type", "name"]

def ofDocument : Decoder Link := fun d => do
  let r ← d.record? members
  some {
    rel := ← r.required "rel" .text
    href := ← r.required "href" .text
    mediaType := ← r.optional "type" .text
    name := ← r.optional "name" .text }

def toJson (l : Link) : Value :=
  .ofFields [("rel", some (.string l.rel)), ("href", some (.string l.href)),
    ("type", l.mediaType.map .string), ("name", l.name.map .string)]

def listJson (ls : List Link) : Value := .array (ls.map toJson)

end Link

end CloudDirector
