/-!
# UTF-8

Texts are written as UTF-8. Reading is forgiving: the longest ill-formed start of a sequence
becomes one replacement character, so every list of bytes reads as some text.
-/
namespace CloudDirector.Text

def utf8OfChar (c : Char) : List UInt8 :=
  let n := c.toNat
  if n < 0x80 then [n.toUInt8]
  else if n < 0x800 then [(0xc0 + n / 64).toUInt8, (0x80 + n % 64).toUInt8]
  else if n < 0x10000 then
    [(0xe0 + n / 4096).toUInt8, (0x80 + n / 64 % 64).toUInt8, (0x80 + n % 64).toUInt8]
  else
    [(0xf0 + n / 262144).toUInt8, (0x80 + n / 4096 % 64).toUInt8,
      (0x80 + n / 64 % 64).toUInt8, (0x80 + n % 64).toUInt8]

def utf8 (cs : List Char) : List UInt8 := cs.flatMap utf8OfChar

/-- The character that stands for bytes that are no text. -/
def replacement : Char := Char.ofNat 0xfffd

/-- The range that the second byte after `lead` has to lie in. -/
def secondRange (lead : Nat) : Nat × Nat :=
  if lead = 0xe0 then (0xa0, 0xbf)
  else if lead = 0xed then (0x80, 0x9f)
  else if lead = 0xf0 then (0x90, 0xbf)
  else if lead = 0xf4 then (0x80, 0x8f)
  else (0x80, 0xbf)

/-- How many bytes follow the byte `lead`, none if it begins no sequence. -/
def followers (lead : Nat) : Option Nat :=
  if lead < 0x80 then some 0
  else if 0xc2 ≤ lead ∧ lead ≤ 0xdf then some 1
  else if 0xe0 ≤ lead ∧ lead ≤ 0xef then some 2
  else if 0xf0 ≤ lead ∧ lead ≤ 0xf4 then some 3
  else none

/-- Reads up to `n` continuation bytes onto `code`: the code if all are there, and the number
of bytes taken. -/
def continueCode : (n code : Nat) → List UInt8 → Option Nat × Nat
  | 0, code, _ => (some code, 0)
  | _ + 1, _, [] => (none, 0)
  | n + 1, code, b :: rest =>
    if 0x80 ≤ b.toNat ∧ b.toNat ≤ 0xbf then
      let (result, taken) := continueCode n (code * 64 + (b.toNat - 0x80)) rest
      (result, taken + 1)
    else (none, 0)

/-- The first character of the bytes after `lead` and how many of them it takes. -/
def readChar (lead : UInt8) (rest : List UInt8) : Char × Nat :=
  match followers lead.toNat with
  | none => (replacement, 0)
  | some 0 => (Char.ofNat lead.toNat, 0)
  | some n =>
    match rest with
    | [] => (replacement, 0)
    | b :: more =>
      let (least, most) := secondRange lead.toNat
      if least ≤ b.toNat ∧ b.toNat ≤ most then
        let top := if n = 1 then lead.toNat - 0xc0 else if n = 2 then lead.toNat - 0xe0
          else lead.toNat - 0xf0
        let (code, taken) := continueCode (n - 1) (top * 64 + (b.toNat - 0x80)) more
        (code.elim replacement Char.ofNat, taken + 1)
      else (replacement, 0)

/-- The text that the bytes spell, with a replacement character for each ill-formed part. -/
def ofUtf8 : List UInt8 → List Char
  | [] => []
  | lead :: rest =>
    let (c, taken) := readChar lead rest
    c :: ofUtf8 (rest.drop taken)
termination_by bytes => bytes.length
decreasing_by simp only [List.length_cons, List.length_drop]; omega

end CloudDirector.Text
