import CloudDirector.Signature.Der
import CloudDirector.Signature.Pem
import CloudDirector.Signature.RsaKey

/-!
# Private keys

The bytes of a private key as a PEM text holds them, and signatures made with it. Whether the
bytes are a key is seen when something is signed.
-/
namespace CloudDirector.Signature
open Encoding

/-- What can be wrong with the text of a key. -/
inductive KeyFlaw where
  | format
  | noKeyBytes
  deriving DecidableEq, Repr

def KeyFlaw.name : KeyFlaw → String
  | .format => "InvalidKeyFormat"
  | .noKeyBytes => "InvalidEcdsaKey"

/-- A private key, not yet looked into. -/
structure PrivateKey where
  der : List UInt8
  deriving DecidableEq

/-- Why a message could not be signed. -/
inductive SignFlaw where
  | key (flaw : RsaFlaw)
  | parts
  deriving DecidableEq, Repr

def SignFlaw.name : SignFlaw → String
  | .key flaw => "RSA key invalid: " ++ flaw.name
  | .parts => "RsaFailedSigning"

namespace PrivateKey

/-- The identifiers of keys: of curves, of RSA, of Edwards curves. -/
def rsaId : List Nat := [1, 2, 840, 113549, 1, 1, 1]

@[inherit_doc rsaId]
def knownIds : List (List Nat) := [[1, 2, 840, 10045, 2, 1], rsaId, [1, 3, 101, 112]]

/-- The key in a PEM text: the bytes of an RSA label, or the first string of bytes under a
general label that is marked as RSA. -/
def ofPem (text : String) : Except KeyFlaw PrivateKey :=
  match Pem.ofText? text with
  | none => .error .format
  | some pem =>
    match DerValue.ofBytes? pem.bytes with
    | none => .error .format
    | some values =>
      if pem.label = "RSA PRIVATE KEY" ∨ pem.label = "RSA PUBLIC KEY" then .ok ⟨pem.bytes⟩
      else if pem.label = "PRIVATE KEY" ∨ pem.label = "PUBLIC KEY" ∨ pem.label = "CERTIFICATE" then
        if firstIdOf knownIds values = some rsaId then
          match firstBytesOf values with
          | some der => .ok ⟨der⟩
          | none => .error .noKeyBytes
        else .error .format
      else .error .format

def sign (key : PrivateKey) (message : String) : Except SignFlaw String :=
  match RsaKey.ofDer key.der with
  | .error flaw => .error (.key flaw)
  | .ok rsa =>
    match rsa.sign (Text.utf8 message.toList) with
    | some signature => .ok (String.ofList (base64 signature))
    | none => .error .parts

end PrivateKey

end CloudDirector.Signature
