import CloudDirector.Json.Value
import CloudDirector.Number.Shortest

/-!
# Writing JSON texts

Values are written without spaces. Inside a text only quotes, backslashes and control characters
are escaped.
-/
namespace CloudDirector.Json
open Number

/-- Two lower-case hexadecimal digits. -/
private def twoHex (n : Nat) : List Char :=
  let ds := Nat.toDigits 16 n
  List.replicate (2 - ds.length) '0' ++ ds

/-- A character as it stands inside a written text. -/
def escapeChar (c : Char) : List Char :=
  if c.toNat = 0x22 ∨ c.toNat = 0x5c then ['\\', c]
  else if c.toNat = 8 then ['\\', 'b']
  else if c.toNat = 9 then ['\\', 't']
  else if c.toNat = 10 then ['\\', 'n']
  else if c.toNat = 12 then ['\\', 'f']
  else if c.toNat = 13 then ['\\', 'r']
  else if c.toNat < 0x20 then ['\\', 'u', '0', '0'] ++ twoHex c.toNat
  else [c]

def writeText (s : String) : List Char :=
  Char.ofNat 0x22 :: s.toList.flatMap escapeChar ++ [Char.ofNat 0x22]

/-- The text of a number. -/
def Numeric.write : Numeric → List Char
  | .whole n => (toString n).toList
  | .real x => x.write.toList

mutual
def Value.write : Value → List Char
  | .null => ['n', 'u', 'l', 'l']
  | .bool true => ['t', 'r', 'u', 'e']
  | .bool false => ['f', 'a', 'l', 's', 'e']
  | .number n => n.write
  | .string s => writeText s
  | .array items => '[' :: writeItems items ++ [']']
  | .object members => Char.ofNat 0x7b :: writeMembers members ++ [Char.ofNat 0x7d]

def writeItems : List Value → List Char
  | [] => []
  | [v] => v.write
  | v :: w :: rest => v.write ++ ',' :: writeItems (w :: rest)

def writeMembers : List (String × Value) → List Char
  | [] => []
  | [(k, v)] => writeText k ++ ':' :: v.write
  | (k, v) :: m :: rest => writeText k ++ ':' :: v.write ++ ',' :: writeMembers (m :: rest)
end

def Value.text (v : Value) : String := String.ofList v.write

end CloudDirector.Json
