/-!
# White space and trimming

Blank characters are those with the white-space property of Unicode. Trimming removes
characters of a class from the ends of a text and touches nothing between them.
-/
namespace CloudDirector.Text

/-- The white space of Unicode. -/
def isBlank (c : Char) : Bool :=
  let n := c.toNat
  (9 ≤ n && n ≤ 13) || n == 0x20 || n == 0x85 || n == 0xa0 || n == 0x1680 ||
    (0x2000 ≤ n && n ≤ 0x200a) || n == 0x2028 || n == 0x2029 || n == 0x202f || n == 0x205f ||
    n == 0x3000

def isSpaceOrTab (c : Char) : Bool := c == ' ' || c == '\t'

/-- `cs` without its leading characters of the class `p`. -/
def trimStart (p : Char → Bool) (cs : List Char) : List Char := cs.dropWhile p

/-- `cs` without its trailing characters of the class `p`. -/
def trimEnd (p : Char → Bool) (cs : List Char) : List Char := (cs.reverse.dropWhile p).reverse

/-- `cs` without the characters of the class `p` at either end. -/
def trimBoth (p : Char → Bool) (cs : List Char) : List Char := trimEnd p (trimStart p cs)

/-- `cs` without white space at either end. -/
def trimBlank (cs : List Char) : List Char := trimBoth isBlank cs

/-- The text without white space at either end. -/
def trim (s : String) : String := String.ofList (trimBlank s.toList)

def isAllBlank (s : String) : Bool := s.toList.all isBlank

@[simp] theorem trimStart_nil (p : Char → Bool) : trimStart p [] = [] := rfl

@[simp] theorem trimEnd_nil (p : Char → Bool) : trimEnd p [] = [] := rfl

@[simp] theorem trimBoth_nil (p : Char → Bool) : trimBoth p [] = [] := rfl

end CloudDirector.Text
