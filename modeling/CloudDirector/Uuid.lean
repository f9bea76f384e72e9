import CloudDirector.Encoding.Percent

/-!
# Universally unique identifiers

Sixteen bytes, written as 32 hexadecimal digits in five groups.
-/
namespace CloudDirector
open Encoding

/-- An identifier of sixteen bytes, as 32 digits in lower case. -/
structure Uuid where
  digits : List Char
  deriving DecidableEq, Repr

namespace Uuid

/-- Inserts hyphens after 8, 12, 16 and 20 digits. -/
def grouped (ds : List Char) : List Char :=
  ds.take 8 ++ '-' :: (ds.drop 8).take 4 ++ '-' :: (ds.drop 12).take 4 ++ '-' ::
    (ds.drop 16).take 4 ++ '-' :: ds.drop 20

def text (u : Uuid) : String := String.ofList (grouped u.digits)

/-- The identifier that a text names: with hyphens or without, in braces or after `urn:uuid:`. -/
def ofText? (s : String) : Option Uuid :=
  let cs := s.toList
  let bare :=
    if (cs.take 9).map Char.toLower = ['u', 'r', 'n', ':', 'u', 'u', 'i', 'd', ':'] then cs.drop 9
    else if cs.head? = some (Char.ofNat 0x7b) ∧ cs.getLast? = some (Char.ofNat 0x7d) then
      (cs.drop 1).dropLast
    else cs
  let ds := bare.filter (· != '-')
  if ds.length = 32 ∧ ds.all (fun c => (hexDigitValue c).isSome) ∧
      (bare = ds ∧ cs = bare ∨ bare = grouped ds) then
    some ⟨ds.map Char.toLower⟩
  else none

/-- Whether a text is a random identifier in its usual form: lower case, version 4. -/
def isRandomText (s : String) : Bool :=
  match ofText? s with
  | some u =>
    u.text == s && u.digits[12]? == some '4' &&
      (u.digits[16]?.map fun c => ['8', '9', 'a', 'b'].contains c).getD false
  | none => false

/-- The identifier with the given number, marked as a random one. -/
def ofNumber (n : Nat) : Uuid :=
  let ds := (List.range 32).map fun i => (Nat.toDigits 16 (n / Nat.pow 16 (31 - i) % 16)).headD '0'
  ⟨(ds.set 12 '4').set 16 '8'⟩

end Uuid

end CloudDirector
