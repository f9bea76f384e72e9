import CloudDirector.Encoding.Base64
import CloudDirector.Text.Blank
import CloudDirector.Text.Cut

/-!
# PEM texts

Bytes in base64 between a line that begins and a line that ends them, both with the same label.
Headers may stand before the bytes, parted from them by an empty line.
-/
namespace CloudDirector.Signature
open Text Encoding

structure Pem where
  label : String
  bytes : List UInt8
  deriving DecidableEq

/-- What precedes and follows the first run of `marker`. The marker is looked for without going
back: after a part of it that turns out wrong, the next character is compared with its start. -/
private def cutMarker (marker : List Char) : (left : List Char) → (before : List Char) → List Char →
    Option (List Char × List Char)
  | [], before, cs => some ((before.drop marker.length).reverse, cs)
  | _ :: _, _, [] => none
  | m :: left, before, c :: cs =>
    if m = c then cutMarker marker left (c :: before) cs
    else cutMarker marker marker (c :: before) cs
termination_by left _ cs => (cs.length, left.length)

private def cutAt (marker : String) (cs : List Char) : Option (List Char × List Char) :=
  cutMarker marker.toList marker.toList [] cs

private def isLineBlank (c : Char) : Bool :=
  c == ' ' || c == '\t' || c.toNat == 10 || c.toNat == 13

private def splitBody (body : List Char) : List Char × List Char :=
  match cutAt "\n\n" body with
  | some parts => parts
  | none => (cutAt "\r\n\r\n" body).getD ([], body)

/-- Each line of the headers has a name before a colon. -/
private def headersFit (headers : List Char) : Bool :=
  ((pieces (·.toNat == 10) headers).filter (· ≠ [])).all (·.contains ':')

def Pem.ofText? (text : String) : Option Pem := do
  let (_, cs) ← cutAt "-----BEGIN " text.toList
  let (opening, cs) ← cutAt "-----" cs
  let (body, cs) ← cutAt "-----END " (cs.dropWhile isLineBlank)
  let (closing, _) ← cutAt "-----" cs
  guard (opening ≠ [] ∧ opening = closing)
  let (headers, data) := splitBody body
  let bytes ← unbase64 (data.filter (!isBlank ·))
  guard (headersFit headers)
  some ⟨String.ofList opening, bytes⟩

end CloudDirector.Signature
