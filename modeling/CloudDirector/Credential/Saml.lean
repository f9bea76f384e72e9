import CloudDirector.Credential.Basic
import CloudDirector.Encoding.Gzip
import CloudDirector.Error

/-!
# SAML tokens

A token is packed and sent in base64. The holder of a key signs the token with it; then the
signature goes along.
-/
namespace CloudDirector
open Text Encoding Signature

def packToken (token : String) : String := String.ofList (base64 (gzip (utf8 token.toList)))

def unpackToken? (packed : String) : Option String := do
  let bytes ← ungzip (← unbase64 packed.toList)
  some (String.ofList (ofUtf8 bytes))

structure SamlLogin where
  token : String
  org : String
  signature : Option String
  deriving DecidableEq

namespace SamlLogin

def bearer (token org : String) : SamlLogin := ⟨token, org, none⟩

/-- The login of the holder of a key, which signs the token. -/
def holderOfKey (token org pem : String) : Result SamlLogin :=
  match PrivateKey.ofPem pem with
  | .error flaw => .error (.signing (.holderKey flaw))
  | .ok key =>
    match key.sign token with
    | .error flaw => .error (.signing (.sign flaw))
    | .ok signature => .ok ⟨token, org, some signature⟩

private def parameter (name value : String) : String :=
  name ++ "=" ++ String.singleton (Char.ofNat 0x22) ++ value ++ String.singleton (Char.ofNat 0x22)

def header (c : SamlLogin) : String :=
  let signed := match c.signature with
    | none => ""
    | some s => "," ++ parameter "signature" s ++ "," ++ parameter "signature_alg" "SHA256withRSA"
  "SIGN " ++ parameter "token" (packToken c.token) ++ "," ++ parameter "org" c.org ++ signed

/-- The description, which leaves out token and key. -/
def description (c : SamlLogin) : String :=
  describedPartly "SignCredentials" [("org", quoted c.org)]

end SamlLogin

end CloudDirector
