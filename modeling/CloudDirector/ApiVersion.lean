import CloudDirector.Error
import CloudDirector.Text.Blank
import CloudDirector.Text.Cut

/-!
# Interface versions

A version is a major and a minor number. Its text may go on after a second point or hyphen; what
follows does not count. Versions are ordered by their major, then their minor number.
-/
namespace CloudDirector
open Text

structure ApiVersion where
  major : Nat
  minor : Nat
  deriving DecidableEq, Repr, Inhabited

namespace ApiVersion

/-- One more than the largest number of a version. -/
def numberLimit : Nat := Nat.pow 2 32

/-- The number that digits spell, if it is in range; a plus sign may stand in front. -/
def number? (cs : List Char) : Option Nat :=
  let digits : List Char := match cs with
    | '+' :: rest => rest
    | cs => cs
  let n := digits.foldl (fun n c => n * 10 + (c.toNat - 48)) 0
  if digits ≠ [] ∧ digits.all Char.isDigit ∧ n < numberLimit then some n else none

/-- Points and hyphens part the numbers of a version. -/
def isSeparator (c : Char) : Bool := c == '.' || c == '-'

def ofChars? (cs : List Char) : Option ApiVersion :=
  match pieces isSeparator (trimBlank cs) with
  | [] => none
  | [major] => (number? major).map (⟨·, 0⟩)
  | major :: minor :: _ => do some ⟨← number? major, ← number? minor⟩

/-- The version that a text names, or the fault in it. -/
def ofText (s : String) : Result ApiVersion :=
  match ofChars? s.toList with
  | some v => .ok v
  | none => .error (.configuration (.version s))

def text (v : ApiVersion) : String := toString v.major ++ "." ++ toString v.minor

def atMost (a b : ApiVersion) : Bool :=
  a.major < b.major || (a.major == b.major && a.minor ≤ b.minor)

def lastOldSignature : ApiVersion := ⟨30, 0⟩

end ApiVersion

end CloudDirector
