import CloudDirector.Text.CombiningClass
import CloudDirector.Text.Composition

/-!
# Normal form of texts

Two spellings of one text differ in which letters are composed with their marks and in the order
of marks that do not touch. The normal form decomposes all characters, sorts the marks after each
letter by their classes, and composes again what can be composed.
-/
namespace CloudDirector.Text

/-- How often the parts of a character are decomposed again. -/
def decompositionDepth : Nat := 4

/-- The parts of a character that cannot be decomposed any further. -/
def decomposed : (depth : Nat) → Char → List Char
  | 0, c => [c]
  | depth + 1, c =>
    match decompose? c with
    | some (a, b) => decomposed depth a ++ [b]
    | none => [c]

/-- Puts a character behind the marks before it, the last one first: a mark goes before marks of
higher class. -/
def placeMark (c : Char) : List Char → List Char
  | [] => [c]
  | p :: before =>
    if 0 < combiningClass c ∧ combiningClass c < combiningClass p then p :: placeMark c before
    else c :: p :: before

/-- The text with the marks after each letter in the order of their classes. -/
def sortMarks (cs : List Char) : List Char :=
  (cs.foldl (fun before c => placeMark c before) []).reverse

/-- Composes a letter with what follows. `marks` holds the marks since the letter that did not
compose with it, the last one first; one of them keeps a mark of no higher class away from the
letter. -/
def composeFrom (letter : Char) (marks : List Char) : List Char → List Char
  | [] => letter :: marks.reverse
  | c :: rest =>
    let reaches := match marks with
      | [] => true
      | m :: _ => combiningClass m < combiningClass c
    match if reaches then compose? letter c else none with
    | some composed => composeFrom composed marks rest
    | none =>
      if combiningClass c = 0 then letter :: marks.reverse ++ composeFrom c [] rest
      else composeFrom letter (c :: marks) rest

/-- Composes each letter with its marks. -/
def composeAll : List Char → List Char
  | [] => []
  | c :: rest => if combiningClass c = 0 then composeFrom c [] rest else c :: composeAll rest

def normalForm (cs : List Char) : List Char :=
  if cs.all (·.toNat < 0x80) then cs
  else composeAll (sortMarks (cs.flatMap (decomposed decompositionDepth)))

@[simp] theorem normalForm_nil : normalForm [] = [] := rfl

theorem normalForm_ascii {cs : List Char} (h : cs.all (·.toNat < 0x80) = true) :
    normalForm cs = cs := by simp [normalForm, h]

end CloudDirector.Text
