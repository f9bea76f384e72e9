import CloudDirector.Text.Cut

/-!
# Headers

Headers are a list of names in lower case with their values; a name may be repeated. Setting a
header replaces all of its values, adding one keeps them.
-/
namespace CloudDirector.Http
open Text

def isTokenChar (c : Char) : Bool :=
  c.isAlphanum ||
    ['!', '#', '$', '%', '&', Char.ofNat 0x27, '*', '+', '-', '.', '^', '_', Char.ofNat 0x60, '|',
      '~'].contains c

def longestName : Nat := 65535

/-- The name of a header in lower case, none if the text is no name. -/
def headerName? (s : String) : Option String :=
  let cs := s.toList
  if cs ≠ [] ∧ cs.length ≤ longestName ∧ cs.all isTokenChar then some (lower s) else none

/-- Characters of a header value: no control characters but the tab. -/
def isValueChar (c : Char) : Bool := c == '\t' || (0x20 ≤ c.toNat && c.toNat != 0x7f)

def isHeaderValue (s : String) : Bool := s.toList.all isValueChar

/-- Whether a value consists of visible ASCII characters, spaces and tabs. -/
def isVisible (s : String) : Bool :=
  s.toList.all fun c => c == '\t' || (0x20 ≤ c.toNat && c.toNat < 0x7f)

/-- A value that can be read as text. -/
def visible? (s : String) : Option String := if isVisible s then some s else none

/-- Names in lower case with their values. -/
structure Headers where
  fields : List (String × String)
  deriving DecidableEq, Repr, Inhabited

namespace Headers

def empty : Headers := ⟨[]⟩

/-- The values of a header, in order. -/
def getAll (h : Headers) (name : String) : List String :=
  (h.fields.filter (·.1 == name)).map Prod.snd

def get? (h : Headers) (name : String) : Option String := (h.getAll name).head?

def contains (h : Headers) (name : String) : Bool := (h.get? name).isSome

def erase (h : Headers) (name : String) : Headers := ⟨h.fields.filter (·.1 != name)⟩

def add (h : Headers) (name value : String) : Headers := ⟨h.fields ++ [(name, value)]⟩

/-- The headers with `value` as the only value of `name`. -/
def set (h : Headers) (name value : String) : Headers := (h.erase name).add name value

/-- The headers with `value` as the value of `name` if it had none. -/
def setIfAbsent (h : Headers) (name value : String) : Headers :=
  if h.contains name then h else h.set name value

/-- The first value of a header, if it can be read as text. -/
def text? (h : Headers) (name : String) : Option String := (h.get? name).bind visible?

/-- The headers in ascending order of their names, equal names in their order. -/
def sorted (h : Headers) : List (String × String) :=
  h.fields.mergeSort fun a b => decide (a.1 ≤ b.1)

@[simp] theorem fields_add (h : Headers) (n v : String) :
    (h.add n v).fields = h.fields ++ [(n, v)] := rfl

theorem getAll_add (h : Headers) (n v m : String) :
    (h.add n v).getAll m = h.getAll m ++ if n = m then [v] else [] := by
  by_cases e : n = m <;> simp [getAll, add, List.filter_append, e]

theorem getAll_erase (h : Headers) (n m : String) :
    (h.erase n).getAll m = if n = m then [] else h.getAll m := by
  unfold getAll erase
  simp only [List.filter_filter]
  by_cases e : n = m
  · subst e
    simp
  · simp only [e, if_false]
    congr 1
    apply List.filter_congr
    intro x _
    by_cases hx : x.1 = m
    · simp [hx, Ne.symm e]
    · simp [hx]

theorem getAll_set (h : Headers) (n v m : String) :
    (h.set n v).getAll m = if n = m then [v] else h.getAll m := by
  by_cases e : n = m <;> simp [set, getAll_add, getAll_erase, e]

end Headers

end CloudDirector.Http
