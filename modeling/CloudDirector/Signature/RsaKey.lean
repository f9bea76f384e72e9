import CloudDirector.Signature.Sha256

/-!
# RSA keys

A private key of two primes, read from its DER form and checked part by part. The checks run in
a fixed order, so that a key with several flaws is always rejected for the same one. A signature
is the padded digest of a message raised to the private exponent.
-/
namespace CloudDirector.Signature

inductive RsaFlaw where
  | invalidEncoding
  | versionNotSupported
  | invalidComponent
  | inconsistentComponents
  | tooSmall
  | tooLarge
  | primeLength
  | unexpected
  deriving DecidableEq, Repr

def RsaFlaw.name : RsaFlaw → String
  | .invalidEncoding => "InvalidEncoding"
  | .versionNotSupported => "VersionNotSupported"
  | .invalidComponent => "InvalidComponent"
  | .inconsistentComponents => "InconsistentComponents"
  | .tooSmall => "TooSmall"
  | .tooLarge => "TooLarge"
  | .primeLength => "PrivateModulusLenNotMultipleOf512Bits"
  | .unexpected => "UnexpectedError"

/-- The parts of a private key. -/
structure RsaKey where
  modulus : Nat
  publicExponent : Nat
  privateExponent : Nat
  primeP : Nat
  primeQ : Nat
  exponentP : Nat
  exponentQ : Nat
  inverseQ : Nat
  deriving DecidableEq

namespace RsaKey

/-- The number that bytes spell, highest first. -/
def ofBigEndian (bs : List UInt8) : Nat := bs.foldl (fun n b => n * 256 + b.toNat) 0

/-- The number of bits of a number. -/
def bitLength (n : Nat) : Nat := if n = 0 then 0 else Nat.log2 n + 1

/-- The power of `b` with an exponent that is given by its bits, lowest first, modulo `m`. -/
private def powerBits (m : Nat) : List Bool → Nat → Nat
  | [], _ => 1 % m
  | bit :: bits, b =>
    let r := powerBits m bits (b * b % m)
    if bit then r * b % m else r

/-- `b ^ e` modulo `m`. -/
def powerMod (b e m : Nat) : Nat :=
  powerBits m ((List.range (bitLength e)).map fun i => e.testBit i) (b % m)

private abbrev Take (α : Type) := List UInt8 → Except RsaFlaw (α × List UInt8)

/-- The bytes of the value with a tag; lengths take one to three bytes, as few as possible. -/
private def tagged (tag : UInt8) : Take (List UInt8) := fun bs => do
  let cut (size : Nat) (rest : List UInt8) : Except RsaFlaw (List UInt8 × List UInt8) :=
    if rest.length < size then .error .invalidEncoding else .ok (rest.take size, rest.drop size)
  match bs with
  | t :: a :: rest =>
    if t ≠ tag then .error .invalidEncoding
    else if a.toNat < 128 then cut a.toNat rest
    else
      match a.toNat, rest with
      | 0x81, b :: rest => if b.toNat < 128 then .error .invalidEncoding else cut b.toNat rest
      | 0x82, b :: c :: rest =>
        let size := b.toNat * 256 + c.toNat
        if size < 256 then .error .invalidEncoding else cut size rest
      | _, _ => .error .invalidEncoding
  | _ => .error .invalidEncoding

/-- The bytes of a number that is not negative, without a zero in front. -/
private def number : Take (List UInt8) := fun bs => do
  let (body, rest) ← tagged 2 bs
  match body with
  | [] => .error .invalidEncoding
  | [b] => if b.toNat < 128 then .ok ([b], rest) else .error .invalidEncoding
  | b :: c :: more =>
    if b = 0 then
      if 128 ≤ c.toNat then .ok (c :: more, rest) else .error .invalidEncoding
    else if b.toNat < 128 then .ok (b :: c :: more, rest)
    else .error .invalidEncoding

/-- Fails with a flaw unless a condition holds. -/
private def require (ok : Bool) (flaw : RsaFlaw) : Except RsaFlaw Unit :=
  if ok then .ok () else .error flaw

private def oddModulus (bs : List UInt8) : Except RsaFlaw Nat := do
  require (24 < bs.length) .unexpected
  require (bs.length ≤ 1024) .tooLarge
  let n := ofBigEndian bs
  require (n % 2 = 1) .invalidComponent
  return n

/-- The modulus, of 2048 to 4096 bits; a part of a byte counts as a whole one. -/
private def modulusOf (bs : List UInt8) : Except RsaFlaw Nat := do
  let n ← oddModulus bs
  require (2048 ≤ (bitLength n + 7) / 8 * 8) .tooSmall
  require (bitLength n ≤ 4096) .tooLarge
  return n

/-- The public exponent: odd, of at most 33 bits, and not below 65537. -/
private def exponentOf (bs : List UInt8) : Except RsaFlaw Nat := do
  require (bs.length ≤ 5) .tooLarge
  require (bs.head? ≠ some 0 ∧ bs ≠ []) .invalidEncoding
  let e := ofBigEndian bs
  require (65537 ≤ e) .tooSmall
  require (e < Nat.pow 2 33) .tooLarge
  require (e % 2 = 1) .invalidComponent
  return e

/-- A prime, of half the bits of the modulus and of a multiple of 512 bits. -/
private def primeOf (half : Nat) (bs : List UInt8) : Except RsaFlaw Nat := do
  let p ← oddModulus bs
  require (bitLength p = half) .inconsistentComponents
  require (bitLength p % 512 = 0) .primeLength
  return p

/-- The private exponent: odd, below the modulus, and of more than half its bits. -/
private def privateOf (n half : Nat) (bs : List UInt8) : Except RsaFlaw Nat := do
  let d ← match oddModulus bs with
    | .ok d => pure d
    | .error _ => .error .invalidComponent
  require (half < bitLength d ∧ d < n) .inconsistentComponents
  return d

/-- An exponent for one prime: odd and below the prime. -/
private def primeExponentOf (p : Nat) (bs : List UInt8) : Except RsaFlaw Nat := do
  let d := ofBigEndian bs
  require (d < p ∧ d % 2 = 1) .inconsistentComponents
  return d

def ofDer (der : List UInt8) : Except RsaFlaw RsaKey := do
  let (inside, after) ← tagged 0x30 der
  let (version, bs) ← number inside
  match version with
  | [v] => require (v = 0) .versionNotSupported
  | _ => .error .invalidEncoding
  let (n, bs) ← number bs
  let (e, bs) ← number bs
  let (d, bs) ← number bs
  let (p, bs) ← number bs
  let (q, bs) ← number bs
  let (dp, bs) ← number bs
  let (dq, bs) ← number bs
  let (qi, bs) ← number bs
  let n ← modulusOf n
  let e ← exponentOf e
  let half := (bitLength n + 1) / 2
  let p ← primeOf half p
  let q ← primeOf half q
  require (p * q % n = 0) .inconsistentComponents
  let d ← privateOf n half d
  let qi := ofBigEndian qi
  require (qi < p) .invalidComponent
  require (qi * q % p = 1) .inconsistentComponents
  let dp ← primeExponentOf p dp
  let dq ← primeExponentOf q dq
  require (bs = [] ∧ after = []) .invalidEncoding
  return ⟨n, e, d, p, q, dp, dq, qi⟩

/-- What stands before the digest of a message that is signed. -/
private def digestMark : List UInt8 :=
  [0x30, 0x31, 0x30, 0x0d, 0x06, 0x09, 0x60, 0x86, 0x48, 0x01, 0x65, 0x03, 0x04, 0x02, 0x01, 0x05,
    0x00, 0x04, 0x20]

/-- The number of bytes of the modulus. -/
def size (key : RsaKey) : Nat := (bitLength key.modulus + 7) / 8

def paddedDigest (key : RsaKey) (message : List UInt8) : List UInt8 :=
  let tail := digestMark ++ sha256 message
  [0, 1] ++ List.replicate (key.size - tail.length - 3) 0xff ++ 0 :: tail

/-- `m` raised to the private exponent, by way of the two primes. -/
def privatePower (key : RsaKey) (m : Nat) : Nat :=
  let a := powerMod m key.exponentP key.primeP
  let b := powerMod m key.exponentQ key.primeQ
  let h := key.inverseQ * (a + key.primeP - b % key.primeP) % key.primeP
  b + key.primeQ * h

/-- The signature of a message; none when the parts of the key do not belong together. -/
def sign (key : RsaKey) (message : List UInt8) : Option (List UInt8) :=
  let m := ofBigEndian (key.paddedDigest message)
  let s := key.privatePower m
  if powerMod s key.publicExponent key.modulus = m then some (bigEndian key.size s) else none

end RsaKey

end CloudDirector.Signature
