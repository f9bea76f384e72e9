import CloudDirector.Number.Binary64

/-!
# The shortest decimal of a double

The decimal written for a double is one with the fewest digits among those that round to it,
and of these the nearest. It is found on the grids of multiples of `10 ^ k`, from coarse to
fine: on each grid only the two neighbours of the double can be the nearest.
-/
namespace CloudDirector.Number

/-- The positive decimal `digits * 10 ^ exponent`. -/
structure Decimal where
  digits : Nat
  exponent : Int
  deriving DecidableEq, Repr

namespace Binary64

/-- Half the distance to the neighbour below and to the neighbour above, both in quarters of
the unit in the last place. -/
def gaps (x : Binary64) : Nat × Nat :=
  if x.significand = Nat.pow 2 52 ∧ leastExponent < x.exponent then (1, 2) else (2, 2)

/-- `num / den` with `den` multiplied by `10 ^ k`. -/
def onGrid (num den : Nat) (k : Int) : Nat × Nat :=
  match k with
  | .ofNat j => (num, den * Nat.pow 10 j)
  | .negSucc j => (num * Nat.pow 10 (j + 1), den)

/-- Whether the multiple `d` of `10 ^ k` rounds to `x`. -/
def roundsTo (x : Binary64) (d : Nat) (k : Int) : Bool :=
  let (below, above) := x.gaps
  let quarters := 4 * x.significand
  let (least, den) := ({ x with significand := quarters - below } : Binary64).ratio
  let (most, _) := ({ x with significand := quarters + above } : Binary64).ratio
  let (l, lden) := onGrid least (4 * den) k
  let (m, mden) := onGrid most (4 * den) k
  if x.significand % 2 = 0 then l ≤ d * lden ∧ d * mden ≤ m else l < d * lden ∧ d * mden < m

/-- The nearest multiple of `10 ^ k` that rounds to `x`, if one does. -/
def gridPoint (x : Binary64) (k : Int) : Option Nat :=
  let (num, den) := x.ratio
  let (a, b) := onGrid num den k
  let near := nearest a b
  let other := if near * b ≤ a then near + 1 else near - 1
  if 0 < near ∧ x.roundsTo near k then some near
  else if 0 < other ∧ x.roundsTo other k then some other
  else none

/-- Looks for a grid point from the grid `10 ^ k` to finer ones. -/
def searchGrid (x : Binary64) : (steps : Nat) → (k : Int) → Decimal
  | 0, k => ⟨x.significand, k⟩
  | steps + 1, k =>
    match x.gridPoint k with
    | some d => ⟨d, k⟩
    | none => searchGrid x steps (k - 1)

/-- A shortest decimal that rounds to `x`, which is not zero. -/
def shortest (x : Binary64) : Decimal :=
  let (num, den) := x.ratio
  let top : Int := if den ≤ num then (Nat.toDigits 10 (num / den)).length else 0
  searchGrid x 700 top

end Binary64

/-- How a decimal is laid out: positional while the point falls within the digits or at most
`wide` places from the start, or within `deep` zeros before them; else with an exponent. -/
structure Layout where
  wide : Int
  deep : Int

namespace Layout

def write (layout : Layout) (x : Decimal) : List Char :=
  let ds := Nat.toDigits 10 x.digits
  let point : Int := ds.length + x.exponent
  if 0 ≤ x.exponent ∧ point ≤ layout.wide then
    ds ++ List.replicate x.exponent.toNat '0' ++ ['.', '0']
  else if 0 < point ∧ point ≤ layout.wide then
    ds.take point.toNat ++ ['.'] ++ ds.drop point.toNat
  else if -layout.deep < point ∧ point ≤ 0 then
    ['0', '.'] ++ List.replicate (-point).toNat '0' ++ ds
  else
    let mantissa := match ds with
      | [] => []
      | [d] => [d]
      | d :: rest => d :: '.' :: rest
    let e := point - 1
    mantissa ++ ['e'] ++ (if e < 0 then ['-'] else []) ++ Nat.toDigits 10 e.natAbs

end Layout

/-- Numbers in documents have a point within sixteen places or five leading zeros. -/
def documentLayout : Layout := ⟨16, 5⟩

/-- The text of a double. -/
def Binary64.write (x : Binary64) : String :=
  let sign := if x.negative then ['-'] else []
  let body := if x.isZero then ['0', '.', '0'] else documentLayout.write x.shortest
  String.ofList (sign ++ body)

end CloudDirector.Number
