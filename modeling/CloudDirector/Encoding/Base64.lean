/-!
# Base64

Three bytes are written as four digits of six bits; a shorter group at the end is filled up with
`=`. Reading accepts exactly what writing produces.
-/
namespace CloudDirector.Encoding

def base64Digit (n : Nat) : Char :=
  if n < 26 then Char.ofNat (65 + n)
  else if n < 52 then Char.ofNat (71 + n)
  else if n < 62 then Char.ofNat (n - 4)
  else if n = 62 then '+'
  else '/'

/-- The six-bit number of a digit. -/
def base64Value (c : Char) : Option Nat :=
  if 'A' ≤ c ∧ c ≤ 'Z' then some (c.toNat - 65)
  else if 'a' ≤ c ∧ c ≤ 'z' then some (c.toNat - 71)
  else if '0' ≤ c ∧ c ≤ '9' then some (c.toNat + 4)
  else if c = '+' then some 62
  else if c = '/' then some 63
  else none

def base64 : List UInt8 → List Char
  | [] => []
  | [a] =>
    [base64Digit (a.toNat / 4), base64Digit (a.toNat % 4 * 16), '=', '=']
  | [a, b] =>
    [base64Digit (a.toNat / 4), base64Digit (a.toNat % 4 * 16 + b.toNat / 16),
      base64Digit (b.toNat % 16 * 4), '=']
  | a :: b :: c :: rest =>
    base64Digit (a.toNat / 4) :: base64Digit (a.toNat % 4 * 16 + b.toNat / 16) ::
      base64Digit (b.toNat % 16 * 4 + c.toNat / 64) :: base64Digit (c.toNat % 64) :: base64 rest

/-- The bytes that a base64 text stands for, none if no bytes are written so. -/
def unbase64 : List Char → Option (List UInt8)
  | [] => some []
  | a :: b :: c :: d :: rest => do
    let x ← base64Value a
    let y ← base64Value b
    let first := (x * 4 + y / 16).toUInt8
    if c = '=' then
      if d = '=' ∧ rest = [] ∧ y % 16 = 0 then some [first] else none
    else
      let z ← base64Value c
      let second := (y % 16 * 16 + z / 4).toUInt8
      if d = '=' then
        if rest = [] ∧ z % 4 = 0 then some [first, second] else none
      else
        let w ← base64Value d
        let more ← unbase64 rest
        some (first :: second :: (z % 4 * 64 + w).toUInt8 :: more)
  | _ => none

end CloudDirector.Encoding
