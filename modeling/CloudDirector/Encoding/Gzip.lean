/-!
# Gzip members

Bytes are packed into a gzip member as stored blocks: a header, blocks of at most 65535 bytes
with their lengths, the checksum and the size. Unpacking reads a member of this form.
-/
namespace CloudDirector.Encoding

/-- The lowest `n` bytes of a number, least first. -/
def littleEndian : (n : Nat) → Nat → List UInt8
  | 0, _ => []
  | n + 1, x => x.toUInt8 :: littleEndian n (x / 256)

private def crcBit (c : UInt32) : UInt32 :=
  if c &&& 1 = 1 then (c >>> 1) ^^^ 0xedb88320 else c >>> 1

private def crcByte (c : UInt32) (b : UInt8) : UInt32 :=
  (List.range 8).foldl (fun c _ => crcBit c) (c ^^^ b.toUInt32)

def crc32 (bytes : List UInt8) : UInt32 := bytes.foldl crcByte 0xffffffff ^^^ 0xffffffff

def blockSize : Nat := 65535

private def storedBlock (last : Bool) (bytes : List UInt8) : List UInt8 :=
  (if last then 1 else 0) :: littleEndian 2 bytes.length ++
    littleEndian 2 (0xffff - bytes.length) ++ bytes

def storedBlocks (bytes : List UInt8) : List UInt8 :=
  if _h : bytes.length ≤ blockSize then storedBlock true bytes
  else storedBlock false (bytes.take blockSize) ++ storedBlocks (bytes.drop blockSize)
termination_by bytes.length
decreasing_by simp only [blockSize, List.length_drop] at *; omega

/-- The header of a member without name, time and extra fields. -/
def gzipHeader : List UInt8 := [0x1f, 0x8b, 8, 0, 0, 0, 0, 0, 0, 0xff]

def gzip (bytes : List UInt8) : List UInt8 :=
  gzipHeader ++ storedBlocks bytes ++ littleEndian 4 (crc32 bytes).toNat ++
    littleEndian 4 bytes.length

/-- The bytes of stored blocks, whatever follows the last one. -/
def unstoreBlocks : List UInt8 → Option (List UInt8)
  | mark :: a :: b :: _ :: _ :: rest =>
    let size := a.toNat + 256 * b.toNat
    if rest.length < size then none
    else if mark = 1 then some (rest.take size)
    else if mark = 0 then (unstoreBlocks (rest.drop size)).map (rest.take size ++ ·)
    else none
  | _ => none
termination_by bytes => bytes.length
decreasing_by simp only [List.length_cons, List.length_drop]; omega

def ungzip (member : List UInt8) : Option (List UInt8) :=
  if member.take gzipHeader.length = gzipHeader then
    unstoreBlocks (member.drop gzipHeader.length)
  else none

end CloudDirector.Encoding
