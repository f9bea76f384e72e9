import CloudDirector.Error

/-!
# Finding links

A link of a resource is found by its relation and its media type; a link without a type is found
only when no type is asked for. More than one match is an error.
-/
namespace CloudDirector

variable {α : Type} [Linked α]

def matchingLinks (resource : α) (rel : String) (mediaType : Option String) : List Link :=
  (Linked.links resource).filter fun l => l.rel == rel && l.mediaType == mediaType

def wantedLink (resource : α) (rel : String) (mediaType : Option String) : WantedLink :=
  ⟨Linked.hrefText resource, rel, mediaType⟩

/-- The only link with a relation and a media type, none if there is no such link. -/
def findLink (resource : α) (rel : String) (mediaType : Option String) : Result (Option Link) :=
  match matchingLinks resource rel mediaType with
  | [] => .ok none
  | [l] => .ok (some l)
  | _ => .error (.multipleLinks (wantedLink resource rel mediaType))

/-- The only link with a relation and a media type; it is an error that there is none. -/
def requireLink (resource : α) (rel : String) (mediaType : Option String) : Result Link :=
  match findLink resource rel mediaType with
  | .ok (some l) => .ok l
  | .ok none => .error (.missingLink (wantedLink resource rel mediaType))
  | .error e => .error e

/-- The link, absent or not; when `needed` its absence is an error. -/
def findLinkIf (needed : Bool) (resource : α) (rel : String) (mediaType : Option String) :
    Result (Option Link) :=
  if needed then (requireLink resource rel mediaType).map some
  else findLink resource rel mediaType

end CloudDirector
