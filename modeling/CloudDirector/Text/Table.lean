import CloudDirector.Encoding.HexNumber
import CloudDirector.Text.Cut

/-!
# Tables of characters

Properties of characters are kept as lines of words with numbers in base sixteen. `300-36f` is
a range of characters, `41-5a:61` maps a range to the one that begins at the number after the
colon, `100~12e:101` does so for every second character of a range, `3164=115f` maps each
character to the same one, and `bd:31.2044.32` maps a character to several.
-/
namespace CloudDirector.Text
open Encoding

def tableWords (lines : List String) : List (List Char) :=
  lines.flatMap fun line => (pieces (· == ' ') line.toList).filter (!·.isEmpty)

structure CharRange where
  first : Nat
  last : Nat
  deriving DecidableEq, Repr

def CharRange.holds (r : CharRange) (c : Char) : Bool := r.first ≤ c.toNat && c.toNat ≤ r.last

def CharRange.ofWord (w : List Char) : CharRange :=
  match cutFirst (· == '-') w with
  | some (a, b) => ⟨hexNumber a, hexNumber b⟩
  | none => ⟨hexNumber w, hexNumber w⟩

def rangesOf (lines : List String) : List CharRange := (tableWords lines).map CharRange.ofWord

def inRanges (ranges : List CharRange) (c : Char) : Bool := ranges.any (·.holds c)

/-- What the characters of a range are mapped to: each to its own target, counted from the
first, or all of them to the same one. -/
structure CharMapping where
  range : CharRange
  step : Nat
  counts : Bool
  target : List Nat
  deriving DecidableEq, Repr

def CharMapping.ofWord (w : List Char) : CharMapping :=
  let counts := !w.contains '='
  let (source, target) := (cutFirst (fun c => c == ':' || c == '=') w).getD (w, [])
  let targets := ((pieces (· == '.') target).filter (!·.isEmpty)).map hexNumber
  match cutFirst (· == '~') source with
  | some (a, b) => ⟨⟨hexNumber a, hexNumber b⟩, 2, counts, targets⟩
  | none => ⟨CharRange.ofWord source, 1, counts, targets⟩

/-- What a mapping makes of a character, if it is one of its own. -/
def CharMapping.image? (m : CharMapping) (c : Char) : Option (List Char) :=
  let distance := c.toNat - m.range.first
  if m.range.holds c && distance % m.step == 0 then
    some (m.target.map fun n => Char.ofNat (if m.counts then n + distance else n))
  else none

def mappingsOf (lines : List String) : List CharMapping :=
  (tableWords lines).map CharMapping.ofWord

def mapped? (mappings : List CharMapping) (c : Char) : Option (List Char) :=
  mappings.findSome? (·.image? c)

@[simp] theorem inRanges_nil (c : Char) : inRanges [] c = false := rfl

@[simp] theorem inRanges_cons (r : CharRange) (rs : List CharRange) (c : Char) :
    inRanges (r :: rs) c = (r.holds c || inRanges rs c) := rfl

theorem inRanges_append (as bs : List CharRange) (c : Char) :
    inRanges (as ++ bs) c = (inRanges as c || inRanges bs c) := by
  simp [inRanges, List.any_append]

@[simp] theorem mapped?_nil (c : Char) : mapped? [] c = none := rfl

end CloudDirector.Text
