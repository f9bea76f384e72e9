import CloudDirector.Text.CombiningClass
import CloudDirector.Text.Cut
import CloudDirector.Text.Direction
import CloudDirector.Text.Joining
import CloudDirector.Text.Mark
import CloudDirector.Text.NormalForm
import CloudDirector.Url.Domain.Reading
import CloudDirector.Url.Punycode

/-!
# Labels of domain names

A label is what stands between two dots. It is shown in ASCII: a label with characters beyond
ASCII in Punycode after `xn--`. Such a label is in normal form, does not begin with a mark, has
joiners only where they change the writing, and is not too long to be coded.
-/
namespace CloudDirector.Url
open Text

def isForbiddenInDomain (c : Char) : Bool :=
  c.toNat ≤ 0x20 || c.toNat == 0x7f ||
    ['%', '#', '/', ':', '<', '>', '?', '@', '[', '\\', ']', '^', '|'].contains c

/-- The character that keeps letters apart. -/
def nonJoiner : Char := Char.ofNat 0x200c

/-- The character that joins letters. -/
def joiner : Char := Char.ofNat 0x200d

/-- Whether the joiners of a label stand where they change the writing: after a sign that takes
the vowel away, or, if they keep apart, between letters that would join. `before` is what precedes,
the last character first. -/
def joinersFit (before : List Char) : List Char → Bool
  | [] => true
  | c :: rest =>
    let fits :=
      if c = joiner then before.head?.any (combiningClass · == viramaClass)
      else if c = nonJoiner then
        before.head?.any (combiningClass · == viramaClass) ||
          (reachesJoining joinsAfter before && reachesJoining joinsBefore rest)
      else true
    fits && joinersFit (c :: before) rest

/-- The longest label that is coded. -/
def longestCoded : Nat := 1000

/-- The longest code that is decoded. -/
def longestCode : Nat := 2000

def isAsciiLabel (label : List Char) : Bool := label.all (·.toNat < 0x80)

def labelFits (label : List Char) : Bool :=
  isAsciiLabel label ||
    (!label.head?.any isMark && joinersFit [] label && label.length ≤ longestCoded)

/-- Whether each character of a label is read as itself and the label is in normal form. -/
def isPlainLabel (label : List Char) : Bool :=
  label.all (fun c => readDomainChar? c == some [c] && !isForbiddenInDomain c && c != '.') &&
    normalForm label == label

structure Label where
  shown : List Char
  written : List Char
  deriving DecidableEq, Repr

def codeMark : List Char := ['x', 'n', '-', '-']

def Label.ofChars? (label : List Char) : Option Label := do
  match after? codeMark label with
  | some code =>
    guard (code.getLast? ≠ some '-' ∧ code ≠ [] ∧ code.length ≤ longestCode)
    let written ← Punycode.decode code
    guard (isPlainLabel written && labelFits written)
    some ⟨label, written⟩
  | none =>
    guard (labelFits label)
    some ⟨if isAsciiLabel label then label else codeMark ++ Punycode.encode label, label⟩

/-- Whether a label keeps to one direction: it begins with a letter, one written rightward holds
no letter written leftward and ends with a letter or number, and one written leftward holds no
letter written rightward, ends so too, and does not mix two kinds of digits. -/
def keepsDirection (label : List Char) : Bool :=
  let ds := label.map Direction.ofChar
  let last := ds.reverse.find? (· != .mark)
  match ds with
  | [] => true
  | .rightward :: _ =>
    !ds.any (fun d => d == .leftward || d == .arabicNumber) &&
      last.any fun d => d == .rightward || d == .number
  | .leftward :: _ =>
    !ds.contains .rightward && !(ds.contains .number && ds.contains .arabicNumber) &&
      last.any fun d => d == .leftward || d == .number || d == .arabicNumber
  | _ => false

end CloudDirector.Url
