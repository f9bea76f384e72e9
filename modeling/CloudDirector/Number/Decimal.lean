import CloudDirector.Number.Binary64

/-!
# Decimal numerals

A numeral is whole-number digits, fraction digits and a power of ten. It is read by taking the
leading digits that fit in 64 bits as a whole number, rounding that to a double, and scaling
once by a power of ten, which is one more rounding. Numerals without fraction and exponent that
fit in 64 bits are read exactly instead.
-/
namespace CloudDirector.Number

/-- One more than the largest 64-bit whole number. -/
def wordLimit : Nat := Nat.pow 2 64

/-- One more than the largest exponent that is read digit by digit. -/
def exponentLimit : Nat := Nat.pow 2 31

/-- The digits of a numeral, apart from its sign. -/
structure Numeral where
  whole : List Nat
  fraction : List Nat
  /-- The sign of the exponent and its digits. -/
  scale : Option (Bool × List Nat)
  deriving DecidableEq

namespace Numeral

def valueOf (digits : List Nat) : Nat := digits.foldl (fun n d => n * 10 + d) 0

/-- Appends leading digits to `n` as long as the result fits in 64 bits: the result and the
digits that are left. -/
def absorb : (n : Nat) → List Nat → Nat × List Nat
  | n, [] => (n, [])
  | n, d :: ds => if n * 10 + d < wordLimit then absorb (n * 10 + d) ds else (n, d :: ds)

/-- The significand of the numeral and the power of ten it is scaled by before its own
exponent counts. -/
def significand (x : Numeral) : Nat × Int :=
  let (n, left) := absorb 0 x.whole
  let (m, dropped) := absorb n x.fraction
  (m, (left.length : Int) - ((x.fraction.length : Int) - (dropped.length : Int)))

/-- Scales a double by a power of ten; none when the result is too large. Powers beyond the
table are taken in steps of `10 ^ -308`. -/
def scaleBy : (steps : Nat) → Binary64 → Int → Option Binary64
  | 0, _, _ => none
  | steps + 1, x, e =>
    if e.natAbs ≤ 308 then do
      let power ← Binary64.powerOfTen e.natAbs
      if 0 ≤ e then x.times power else x.dividedBy power
    else if x.isZero then some x
    else if 0 ≤ e then none
    else do
      let power ← Binary64.powerOfTen 308
      scaleBy steps (← x.dividedBy power) (e + 308)

/-- The size of the numeral as a double; none when it is too large. -/
def size (x : Numeral) : Option Binary64 :=
  let (n, shift) := x.significand
  match x.scale with
  | none => do scaleBy 8 (← Binary64.ofNat n) shift
  | some (positive, digits) =>
    let e := valueOf digits
    if exponentLimit ≤ e then
      if n ≠ 0 ∧ positive then none else some (Binary64.zero false)
    else do scaleBy 8 (← Binary64.ofNat n) (if positive then shift + e else shift - e)

end Numeral

end CloudDirector.Number
