import CloudDirector.Resource.Task

/-!
# Entities

An entity is any resource of which only the common members are known; all others are kept as
they came.
-/
namespace CloudDirector
open Json

/-- A resource with its common members, and the rest of it untyped. -/
structure Entity where
  href : Option String
  mediaType : Option String
  id : Option String
  name : Option String
  link : List Link
  /-- The tasks that run on the entity. -/
  tasks : Option (List Task)
  rest : List (String × Value)
  deriving Repr, Inhabited

namespace Entity

def members : List String := ["href", "type", "id", "name", "link", "tasks"]

def tasksOfDocument : Decoder (List Task) := fun d => do
  let r ← d.record? ["task"]
  r.orElse "task" [] (.list Task.ofDocument)

def tasksJson (ts : List Task) : Value :=
  .ofFields [("task", some (.array (ts.map Task.toJson)))]

def ofDocument : Decoder Entity := fun d => do
  let (r, rest) ← d.recordWithRest? members
  some {
    href := ← r.optional "href" .text
    mediaType := ← r.optional "type" .text
    id := ← r.optional "id" .text
    name := ← r.optional "name" .text
    link := ← r.orElse "link" [] (.list Link.ofDocument)
    tasks := ← r.optional "tasks" tasksOfDocument
    rest := rest }

def toJson (e : Entity) : Value :=
  .ofFields ([("href", e.href.map .string), ("type", e.mediaType.map .string),
    ("id", e.id.map .string), ("name", e.name.map .string), ("link", some (Link.listJson e.link)),
    ("tasks", e.tasks.map tasksJson)] ++ e.rest.map fun (k, v) => (k, some v))

instance : Linked Entity := ⟨Entity.href, Entity.link⟩

end Entity

end CloudDirector
