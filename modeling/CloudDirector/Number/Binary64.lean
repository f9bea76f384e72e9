/-!
# Double-precision numbers

A finite double is a sign, a significand below `2 ^ 53` and a power of two not below `2 ^ -1074`.
Every result is the double nearest to the exact one, ties going to the even significand, so all
arithmetic here is exact arithmetic followed by one rounding.
-/
namespace CloudDirector.Number

/-- The finite double `±significand * 2 ^ exponent`. -/
structure Binary64 where
  negative : Bool
  significand : Nat
  exponent : Int
  deriving DecidableEq, Repr, Inhabited

namespace Binary64

def leastExponent : Int := -1074

def mostExponent : Int := 971

def zero (negative : Bool) : Binary64 := ⟨negative, 0, leastExponent⟩

def isZero (x : Binary64) : Bool := x.significand == 0

/-- `x` with the other sign. -/
def neg (x : Binary64) : Binary64 := { x with negative := !x.negative }

/-- The whole number nearest to `num / den`, a tie going to the even one. -/
def nearest (num den : Nat) : Nat :=
  let q := num / den
  let r := num % den
  if 2 * r < den then q else if den < 2 * r then q + 1 else q + q % 2

/-- The fraction `num / den` divided by `2 ^ e`. -/
def scaled (num den : Nat) (e : Int) : Nat × Nat :=
  match e with
  | .ofNat k => (num, den * Nat.pow 2 k)
  | .negSucc k => (num * Nat.pow 2 (k + 1), den)

/-- The exponent at which `num / den` has a significand of 53 bits, or the least one. -/
def exponentFor (num den : Nat) : Int :=
  let guess : Int := (Nat.log2 num : Int) - (Nat.log2 den : Int) - 52
  let (a, b) := scaled num den guess
  let e := if a < b * Nat.pow 2 52 then guess - 1 else guess
  max e leastExponent

/-- The double nearest to `num / den`, none when it is too large. -/
def ofRatio (num den : Nat) : Option Binary64 :=
  if num = 0 then some (zero false)
  else
    let e := exponentFor num den
    let (a, b) := scaled num den e
    let m := nearest a b
    let (m, e) := if m = Nat.pow 2 53 then (Nat.pow 2 52, e + 1) else (m, e)
    if mostExponent < e then none else some ⟨false, m, e⟩

/-- The double nearest to a whole number, none when it is too large. -/
def ofNat (n : Nat) : Option Binary64 := ofRatio n 1

/-- The size of `x` as a fraction. -/
def ratio (x : Binary64) : Nat × Nat :=
  match x.exponent with
  | .ofNat k => (x.significand * Nat.pow 2 k, 1)
  | .negSucc k => (x.significand, Nat.pow 2 (k + 1))

/-- The product of the sizes of two doubles, rounded. -/
def times (x y : Binary64) : Option Binary64 :=
  ofRatio (x.ratio.1 * y.ratio.1) (x.ratio.2 * y.ratio.2)

/-- The quotient of the sizes of two doubles, rounded; `y` is not zero. -/
def dividedBy (x y : Binary64) : Option Binary64 :=
  ofRatio (x.ratio.1 * y.ratio.2) (x.ratio.2 * y.ratio.1)

/-- The double nearest to `10 ^ k`. -/
def powerOfTen (k : Nat) : Option Binary64 := ofNat (Nat.pow 10 k)

end Binary64

end CloudDirector.Number
