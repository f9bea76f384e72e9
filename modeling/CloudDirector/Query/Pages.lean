import CloudDirector.Query.Basic
import CloudDirector.Resource.Page

/-!
# Pages of a query

The pages of an answered query are a chain, joined by links of the pages' own type. An iterator
stands before its first page, which is already there, and then on one of them; a step along the
chain fetches one page. A step that fails leaves the iterator where it was.
-/
namespace CloudDirector
open Http Json

/-- What an iterator remembers of the page on which it stands. -/
structure Cursor where
  href : Option String
  mediaType : Option String
  total : Nat
  link : List Link
  deriving DecidableEq, Repr, Inhabited

instance : Linked Cursor := ⟨Cursor.href, Cursor.link⟩

variable {α : Type}

def Page.cursor (p : Page α) : Cursor := ⟨p.href, p.mediaType, p.total, p.link⟩

/-- The address to which the page's link of a relation leads. -/
def Cursor.neighbour (c : Cursor) (rel : String) : Result (Option String) := do
  return (← findLink c rel c.mediaType).map Link.href

structure PageIterator (α : Type) where
  format : QueryFormat
  cursor : Cursor
  /-- The first page, as long as it is unread. -/
  unread : Option (Page α)
  deriving Repr

/-- What a step needs: nothing, as there is no page; the unread page; or a fetch. -/
inductive PageStep (α : Type) where
  | stay
  | read (page : Page α)
  | fetch (href : String)
  deriving Repr

def PageStep.yields : PageStep α → Bool
  | .stay => false
  | _ => true

namespace PageIterator

def before (format : QueryFormat) (page : Page α) : PageIterator α :=
  ⟨format, page.cursor, some page⟩

def on (format : QueryFormat) (page : Page α) : PageIterator α := ⟨format, page.cursor, none⟩

/-- How many records all pages have, by the word of the page on which the iterator stands. -/
def total (p : PageIterator α) : Nat := p.cursor.total

/-- The step forward. The unread page is worth reading if the query has records or the page has
a successor. -/
def forward (p : PageIterator α) : Result (PageStep α) := do
  match p.unread, ← p.cursor.neighbour "nextPage" with
  | some page, next => return if 0 < p.total ∨ next.isSome then .read page else .stay
  | none, some href => return .fetch href
  | none, none => return .stay

/-- The step backward; before the first page there is none. -/
def backward (p : PageIterator α) : Result (PageStep α) := do
  match p.unread, ← p.cursor.neighbour "previousPage" with
  | none, some href => return .fetch href
  | _, _ => return .stay

def hasNext (p : PageIterator α) : Result Bool := p.forward.map PageStep.yields

def hasPrevious (p : PageIterator α) : Result Bool := p.backward.map PageStep.yields

/-- Takes a step: the page that it yields, and the iterator on it. -/
def take (s : Settings) (item : Decoder α) (p : PageIterator α) :
    PageStep α → Action (Option (Page α) × PageIterator α)
  | .stay => return (none, p)
  | .read page => return (some page, { p with unread := none })
  | .fetch href => do
    let page := (← getTyped s (Page.ofDocument item) href p.format.mediaType).data
    return (some page, .on p.format page)

def next (s : Settings) (item : Decoder α) (p : PageIterator α) :
    Action (Option (Page α) × PageIterator α) := do
  p.take s item (← p.forward)

def previous (s : Settings) (item : Decoder α) (p : PageIterator α) :
    Action (Option (Page α) × PageIterator α) := do
  p.take s item (← p.backward)

end PageIterator

namespace Query

/-- Asks a query: the iterator before its first page. -/
def execute (s : Settings) (item : Decoder α) (q : Query) : Action (PageIterator α) := do
  let url ← q.address s
  let first ← getTyped s (Page.ofDocument item) url.text q.format.mediaType
  return .before q.format first.data

def noRecord (s : Settings) (q : Query) : Error := .missingRecord (q.text s.endpoint)

/-- The only record among those of a first page, by what the page holds and says. -/
def uniqueOf (s : Settings) (q : Query) : Option (Page α) → Result α
  | none => .error (q.noRecord s)
  | some page =>
    if 1 < page.total ∨ 1 < page.record.length then
      .error (.multipleRecords (q.text s.endpoint))
    else
      match page.record.head? with
      | some r => .ok r
      | none => .error (q.noRecord s)

def findUnique (s : Settings) (item : Decoder α) (q : Query) : Action α := do
  let (page, _) ← (← q.execute s item).next s item
  q.uniqueOf s page

end Query

end CloudDirector
