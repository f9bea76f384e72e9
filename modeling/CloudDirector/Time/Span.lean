import CloudDirector.Time.Calendar

/-!
# Spans of time

A span is written in the largest unit of which it holds at least one, with as many fraction
digits as are exact: `1.5ms`, `2s`, `250ns`.
-/
namespace CloudDirector.Time

/-- A length of time in nanoseconds. -/
structure Span where
  nanos : Nat
  deriving DecidableEq, Repr, Inhabited

namespace Span

def ofMillis (n : Nat) : Span := ⟨n * 1000000⟩

/-- `whole` and the part `part / 10 ^ width` of a unit, without zeros at the end. -/
private def decimal (whole part width : Nat) : List Char :=
  let fraction := ((padded width part).reverse.dropWhile (· == '0')).reverse
  Nat.toDigits 10 whole ++ (if part = 0 then [] else '.' :: fraction)

def text (s : Span) : String :=
  let n := s.nanos
  if 1000000000 ≤ n then
    String.ofList (decimal (n / 1000000000) (n % 1000000000) 9 ++ ['s'])
  else if 1000000 ≤ n then String.ofList (decimal (n / 1000000) (n % 1000000) 6 ++ ['m', 's'])
  else if 1000 ≤ n then
    String.ofList (decimal (n / 1000) (n % 1000) 3 ++ [Char.ofNat 0xb5, 's'])
  else String.ofList (decimal n 0 0 ++ ['n', 's'])

end Span

end CloudDirector.Time
