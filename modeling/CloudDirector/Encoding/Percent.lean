import CloudDirector.Encoding.HexNumber
import CloudDirector.Text.Utf8

/-!
# Percent encoding

A byte is written as `%` and two upper-case hexadecimal digits. Which characters are kept is for
each place of a URL to say; the bytes of a character are those of UTF-8.
-/
namespace CloudDirector.Encoding
open Text

/-- The upper-case digit of a four-bit number. -/
def hexDigit (n : Nat) : Char := if n < 10 then Char.ofNat (48 + n) else Char.ofNat (55 + n)

/-- A byte as `%` and two digits. -/
def percentByte (b : UInt8) : List Char :=
  ['%', hexDigit (b.toNat / 16), hexDigit (b.toNat % 16)]

def percentChar (c : Char) : List Char := (utf8OfChar c).flatMap percentByte

/-- The text with the characters of the class `escaped` percent-encoded. -/
def percentEncode (escaped : Char → Bool) (cs : List Char) : List Char :=
  cs.flatMap fun c => if escaped c then percentChar c else [c]

/-- The bytes of a text in which `%` and two digits stand for a byte. -/
def percentDecode : List Char → List UInt8
  | [] => []
  | '%' :: a :: b :: rest =>
    match hexDigitValue a, hexDigitValue b with
    | some x, some y => (x * 16 + y).toUInt8 :: percentDecode rest
    | _, _ => (0x25 : UInt8) :: percentDecode (a :: b :: rest)
  | c :: rest => utf8OfChar c ++ percentDecode rest
termination_by cs => cs.length

end CloudDirector.Encoding
