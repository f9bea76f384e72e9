import CloudDirector.Text.Cut
import CloudDirector.Url.Fault

/-!
# Numeric hosts

An address of four bytes may be written with fewer numbers, in decimal, octal or hexadecimal; it
is shown as four decimal numbers. An address of eight words is written in hexadecimal with one
gap of zeros; it is shown with the first longest gap left out.
-/
namespace CloudDirector.Url
open Text

private def digitIn (base : Nat) (c : Char) : Option Nat :=
  let n := c.toNat
  let v := if 48 ≤ n ∧ n ≤ 57 then n - 48 else if 97 ≤ n ∧ n ≤ 102 then n - 87
    else if 65 ≤ n ∧ n ≤ 70 then n - 55 else 16
  if v < base then some v else none

private def numberIn (base : Nat) (cs : List Char) : Option Nat :=
  cs.foldlM (fun n c => (digitIn base c).map (n * base + ·)) 0

def ipv4Number (cs : List Char) : Option Nat :=
  match cs with
  | [] => none
  | '0' :: 'x' :: rest => numberIn 16 rest
  | '0' :: 'X' :: rest => numberIn 16 rest
  | '0' :: c :: rest => numberIn 8 (c :: rest)
  | cs => numberIn 10 cs

private def pointPieces (cs : List Char) : List (List Char) :=
  let parts := pieces (· == '.') cs
  if parts.getLast? = some [] ∧ parts.length ≠ 1 then parts.dropLast else parts

/-- Whether a host is meant as a four-byte address: its last piece is a number. -/
def endsInNumber (cs : List Char) : Bool :=
  match (pointPieces cs).getLast? with
  | none => false
  | some [] => false
  | some last => last.all Char.isDigit || (ipv4Number last).isSome

/-- The four-byte address that a host spells. -/
def ipv4? (cs : List Char) : Option Nat := do
  let parts := pointPieces cs
  guard (parts.length ≤ 4)
  let numbers ← parts.mapM ipv4Number
  let last ← numbers.getLast?
  let front := numbers.dropLast
  guard (last < Nat.pow 256 (4 - front.length) ∧ front.all (· < 256))
  some (front.foldl (fun n x => n * 256 + x) 0 * Nat.pow 256 (4 - front.length) + last)

def ipv4Text (n : Nat) : List Char :=
  joinWith ['.'] ([n / 16777216, n / 65536 % 256, n / 256 % 256, n % 256].map (Nat.toDigits 10))

/-- A decimal number below 256 without leading zeros. -/
private def plainByte (cs : List Char) : Option Nat := do
  guard (cs ≠ [] ∧ cs.all Char.isDigit ∧ (cs.head? ≠ some '0' ∨ cs.length = 1))
  let n ← numberIn 10 cs
  guard (n < 256)
  some n

/-- The words of a list of pieces between colons; the last may be a four-byte address. -/
private def words : List (List Char) → Option (List Nat)
  | [] => some []
  | [last] =>
    if last.contains '.' then
      match (pieces (· == '.') last).mapM plainByte with
      | some [a, b, c, d] => some [a * 256 + b, c * 256 + d]
      | _ => none
    else word last
  | p :: rest => do some ((← word p) ++ (← words rest))
where
  /-- One word of up to four digits. -/
  word (cs : List Char) : Option (List Nat) :=
    if cs = [] ∨ 4 < cs.length then none else (numberIn 16 cs).map ([·])

/-- What stands before and after the first double colon. -/
private def cutGap : List Char → Option (List Char × List Char)
  | [] => none
  | ':' :: ':' :: rest => some ([], rest)
  | c :: rest => (cutGap rest).map fun (a, b) => (c :: a, b)

/-- The words that a text between colons spells; an empty text has none. -/
private def wordsOf (cs : List Char) : Option (List Nat) :=
  if cs = [] then some [] else words (pieces (· == ':') cs)

def ipv6? (cs : List Char) : Option (List Nat) := do
  match cutGap cs with
  | none =>
    let ws ← wordsOf cs
    guard (ws.length = 8)
    some ws
  | some (front, back) =>
    guard (!front.contains '.')
    let a ← wordsOf front
    let b ← wordsOf back
    guard (a.length + b.length ≤ 7)
    some (a ++ List.replicate (8 - a.length - b.length) 0 ++ b)

/-- The longest run of zeros, by its start and length, the first of equal ones. -/
private def longestGap (ws : List Nat) : Nat × Nat :=
  let runAt (i : Nat) := ((ws.drop i).takeWhile (· == 0)).length
  (List.range ws.length).foldl
    (fun best i => if best.2 < runAt i then (i, runAt i) else best) (0, 0)

def ipv6Text (ws : List Nat) : List Char :=
  let hex (ns : List Nat) := joinWith [':'] (ns.map (Nat.toDigits 16))
  let (start, size) := longestGap ws
  let inside := if size < 2 then hex ws
    else hex (ws.take start) ++ [':', ':'] ++ hex (ws.drop (start + size))
  '[' :: inside ++ [']']

end CloudDirector.Url
