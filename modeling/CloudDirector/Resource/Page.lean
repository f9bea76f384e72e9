import CloudDirector.Resource.Link

/-!
# Result pages

One page of the results of a query. Its records may also come under the name `reference`.
-/
namespace CloudDirector
open Json

structure Page (α : Type) where
  href : Option String
  mediaType : Option String
  name : Option String
  page : Nat
  pageSize : Nat
  total : Nat
  link : List Link
  record : List α
  deriving DecidableEq, Repr, Inhabited

namespace Page

def members : List String :=
  ["href", "type", "name", "page", "pageSize", "total", "link", "record"]

/-- The page that a document describes, given how its records are read. -/
def ofDocument {α : Type} (item : Decoder α) : Decoder (Page α) := fun d => do
  let r ← (d.renamed "reference" "record").record? members
  some {
    href := ← r.optional "href" .text
    mediaType := ← r.optional "type" .text
    name := ← r.optional "name" .text
    page := ← r.orElse "page" 0 (.natural (Nat.pow 2 32))
    pageSize := ← r.orElse "pageSize" 0 (.natural (Nat.pow 2 32))
    total := ← r.orElse "total" 0 (.natural (Nat.pow 2 64))
    link := ← r.orElse "link" [] (.list Link.ofDocument)
    record := ← r.orElse "record" [] (.list item) }

/-- A page as JSON, given how its records are written. -/
def toJson {α : Type} (item : α → Value) (p : Page α) : Value :=
  .ofFields [("href", p.href.map .string), ("type", p.mediaType.map .string),
    ("name", p.name.map .string), ("page", some (.ofNat p.page)),
    ("pageSize", some (.ofNat p.pageSize)), ("total", some (.ofNat p.total)),
    ("link", some (Link.listJson p.link)), ("record", some (.array (p.record.map item)))]

instance {α : Type} : Linked (Page α) := ⟨Page.href, Page.link⟩

end Page

end CloudDirector
