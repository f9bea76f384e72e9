import CloudDirector.Text.Utf8
import CloudDirector.Time.Stamp

/-!
# DER

Tagged values nested in each other, as keys and certificates are stored. Only as much of the
values is kept as is needed to find a key: sequences, object identifiers and strings of bytes.
-/
namespace CloudDirector.Signature

inductive DerValue where
  | sequence (items : List DerValue)
  | objectId (numbers : List Nat)
  | bits (bytes : List UInt8)
  | octets (bytes : List UInt8)
  | other
  deriving Repr, Inhabited

def sevenBitNumber : (n : Nat) → List UInt8 → Option (Nat × List UInt8)
  | _, [] => none
  | n, b :: rest =>
    let n := n * 128 + b.toNat % 128
    if b.toNat < 128 then some (n, rest) else sevenBitNumber n rest

/-- A number of `k` bytes, highest first. -/
private def byteNumber : (k n : Nat) → List UInt8 → Option (Nat × List UInt8)
  | 0, n, bs => some (n, bs)
  | _ + 1, _, [] => none
  | k + 1, n, b :: bs => byteNumber k (n * 256 + b.toNat) bs

/-- A length: one byte, or a count of the bytes that spell it. -/
private def derLength : List UInt8 → Option (Nat × List UInt8)
  | [] => none
  | b :: rest =>
    if b.toNat < 128 then some (b.toNat, rest)
    else if 8 < b.toNat - 128 then none
    else byteNumber (b.toNat - 128) 0 rest

/-- Class and number of a tag, and whether the value is made of others. -/
private structure DerTag where
  universal : Bool
  constructed : Bool
  number : Nat

private def derTag : List UInt8 → Option (DerTag × List UInt8)
  | [] => none
  | b :: rest =>
    let universal := b.toNat < 64
    let constructed := b.toNat / 32 % 2 == 1
    if b.toNat % 32 = 31 then
      (sevenBitNumber 0 rest).map fun (n, r) => (⟨universal, constructed, n⟩, r)
    else some (⟨universal, constructed, b.toNat % 32⟩, rest)

/-- The numbers after the first byte of an object identifier. -/
private def moreNumbers : (fuel : Nat) → List UInt8 → Option (List Nat)
  | _, [] => some []
  | 0, _ => none
  | fuel + 1, bs => do
    let (n, rest) ← sevenBitNumber 0 bs
    some (n :: (← moreNumbers fuel rest))

private def objectNumbers : List UInt8 → Option (List Nat)
  | [] => none
  | b :: rest => do
    let n := b.toNat
    let first := if n < 40 then [0, n] else if n < 80 then [1, n - 40] else [2, n - 80]
    some (first ++ (← moreNumbers rest.length rest))

private def isPrintableByte (b : UInt8) : Bool :=
  let c := Char.ofNat b.toNat
  c.isAlphanum ||
    [' ', Char.ofNat 0x27, '(', ')', '+', ',', '-', '.', '/', ':', '=', '?'].contains c

private def isUtf8 (bs : List UInt8) : Bool := Text.utf8 (Text.ofUtf8 bs) == bs

private def byteChars (bs : List UInt8) : List Char := bs.map fun b => Char.ofNat b.toNat

/-- The value of a tag with its bytes, where `nested` reads the values inside it. -/
private def DerTag.value (nested : List UInt8 → Option (List DerValue)) (tag : DerTag)
    (body : List UInt8) : Option DerValue :=
  if !tag.universal then some .other
  else
    match tag.number, body with
    | 1, [_] => some .other
    | 1, _ => none
    | 3, [] => some (.bits [])
    | 3, unused :: bits => if bits.length * 8 < unused.toNat then none else some (.bits bits)
    | 4, body => some (.octets body)
    | 6, body => (objectNumbers body).map .objectId
    | 12, body => if isUtf8 body then some .other else none
    | 16, body => (nested body).map .sequence
    | 17, body => (nested body).map fun _ => .other
    | 19, body => if body.all isPrintableByte then some .other else none
    | 20, body => if isUtf8 body then some .other else none
    | 23, body => if Time.isShortStamp (byteChars body) then some .other else none
    | 24, body => if Time.isLongStamp (byteChars body) then some .other else none
    | 28, body => if isUtf8 body then some .other else none
    | 30, body => if isUtf8 body then some .other else none
    | _, _ => some .other

/-- The values that bytes spell one after the other, at least one. -/
def derValues : (fuel : Nat) → List UInt8 → Option (List DerValue)
  | 0, _ => none
  | fuel + 1, bs => do
    let (tag, bs) ← derTag bs
    let (size, bs) ← derLength bs
    if bs.length < size then none
    else
      let v ← tag.value (derValues fuel) (bs.take size)
      match bs.drop size with
      | [] => some [v]
      | rest => do some (v :: (← derValues fuel rest))

def DerValue.ofBytes? (bs : List UInt8) : Option (List DerValue) :=
  derValues (bs.length + 1) bs

mutual
/-- The first object identifier of a known list, looked for in sequences. -/
def DerValue.firstId (known : List (List Nat)) : DerValue → Option (List Nat)
  | .sequence items => firstIdOf known items
  | .objectId numbers => if known.contains numbers then some numbers else none
  | _ => none

/-- `DerValue.firstId` of each value in turn. -/
def firstIdOf (known : List (List Nat)) : List DerValue → Option (List Nat)
  | [] => none
  | v :: vs => (v.firstId known).or (firstIdOf known vs)
end

mutual
/-- The first string of bits or bytes, looked for in sequences. -/
def DerValue.firstBytes : DerValue → Option (List UInt8)
  | .sequence items => firstBytesOf items
  | .bits bytes => some bytes
  | .octets bytes => some bytes
  | _ => none

/-- `DerValue.firstBytes` of each value in turn. -/
def firstBytesOf : List DerValue → Option (List UInt8)
  | [] => none
  | v :: vs => v.firstBytes.or (firstBytesOf vs)
end

end CloudDirector.Signature
