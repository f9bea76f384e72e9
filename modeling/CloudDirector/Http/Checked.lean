import CloudDirector.Error
import CloudDirector.Http.Headers

/-!
# Checked headers

Names and values of headers that come from outside are checked before they are set.
-/
namespace CloudDirector.Http

def checkValue (value : String) : Result String :=
  if isHeaderValue value then .ok value else .error (.configuration .headerValue)

/-- A text that is to be the name of a header, in lower case. -/
def checkName (name : String) : Result String :=
  match headerName? name with
  | some n => .ok n
  | none => .error (.configuration .headerName)

namespace Headers

/-- The headers with `value` as the only value of `name`; the name is checked first. -/
def set? (h : Headers) (name value : String) : Result Headers := do
  return h.set (← checkName name) (← checkValue value)

def setAll (h : Headers) (more : List (String × String)) : Headers :=
  more.foldl (fun h (n, v) => h.set n v) h

/-- The headers with those of `other` in place of those of the same names. -/
def replaceBy (h other : Headers) : Headers :=
  ⟨h.fields.filter (fun f => !other.contains f.1) ++ other.fields⟩

end Headers

end CloudDirector.Http
