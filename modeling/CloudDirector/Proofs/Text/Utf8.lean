import CloudDirector.Text.Utf8
import Mathlib.Data.UInt

/-!
# Texts and their bytes

What is written in UTF-8 is read back, character by character. The first byte of a character says
how many there are, and the others lie in the ranges in which they are looked for.
-/
namespace CloudDirector.Text

variable {lead b : UInt8} {rest : List UInt8} {n m code : Nat}

theorem toNat_toUInt8 (h : n < 256) : n.toUInt8.toNat = n := by
  simp [Nat.toUInt8, Nat.mod_eq_of_lt h]

/-- The numbers of characters leave a gap for the halves of pairs. -/
theorem toNat_char (c : Char) : c.toNat < 0xd800 ∨ 0xdfff < c.toNat ∧ c.toNat < 0x110000 := c.valid

theorem continueCode_cons (hm : m < 64) :
    continueCode (n + 1) code ((0x80 + m).toUInt8 :: rest) =
      ((continueCode n (code * 64 + m) rest).1, (continueCode n (code * 64 + m) rest).2 + 1) := by
  have hb : ((0x80 + m).toUInt8).toNat = 0x80 + m := toNat_toUInt8 (by omega)
  have hrange : 0x80 ≤ 0x80 + m ∧ 0x80 + m ≤ 0xbf := by omega
  simp only [continueCode, hb, if_pos hrange, Nat.add_sub_cancel_left]

/-- The bits of a first byte with `n` bytes behind it. -/
def leadBits (lead n : Nat) : Nat :=
  if n = 1 then lead - 0xc0 else if n = 2 then lead - 0xe0 else lead - 0xf0

theorem readChar_cons (h : followers lead.toNat = some (n + 1))
    (hb : (secondRange lead.toNat).1 ≤ b.toNat ∧ b.toNat ≤ (secondRange lead.toNat).2) :
    readChar lead (b :: rest) =
      let next := continueCode n (leadBits lead.toNat (n + 1) * 64 + (b.toNat - 0x80)) rest
      (next.1.elim replacement Char.ofNat, next.2 + 1) := by
  simp only [readChar, h, if_pos hb]
  rfl

theorem readChar_one {c : Char} (hc : c.toNat < 0x80) :
    readChar c.toNat.toUInt8 rest = (c, 0) := by
  have hlead : c.toNat.toUInt8.toNat = c.toNat := toNat_toUInt8 (by omega)
  have hfollowers : followers c.toNat = some 0 := if_pos hc
  simp only [readChar, hlead, hfollowers, Char.ofNat_toNat]

theorem readChar_two {c : Char} (hc : 0x80 ≤ c.toNat) (hc' : c.toNat < 0x800) :
    readChar (0xc0 + c.toNat / 64).toUInt8 ((0x80 + c.toNat % 64).toUInt8 :: rest) = (c, 1) := by
  have hlead : ((0xc0 + c.toNat / 64).toUInt8).toNat = 0xc0 + c.toNat / 64 :=
    toNat_toUInt8 (by omega)
  have hsecond : ((0x80 + c.toNat % 64).toUInt8).toNat = 0x80 + c.toNat % 64 :=
    toNat_toUInt8 (by omega)
  have hfollowers : followers (0xc0 + c.toNat / 64) = some 1 := by
    unfold followers
    rw [if_neg (by omega), if_pos (by omega)]
  have hrange : secondRange (0xc0 + c.toNat / 64) = (0x80, 0xbf) := by
    unfold secondRange
    rw [if_neg (by omega), if_neg (by omega), if_neg (by omega), if_neg (by omega)]
  rw [readChar_cons (by rw [hlead, hfollowers]) (by rw [hlead, hrange, hsecond]; omega), hlead,
    hsecond]
  have hcode : leadBits (0xc0 + c.toNat / 64) 1 * 64 + (0x80 + c.toNat % 64 - 0x80) = c.toNat := by
    simp only [leadBits, if_true]
    omega
  simp only [continueCode, hcode, Option.elim_some, Char.ofNat_toNat]

theorem readChar_three {c : Char} (hc : 0x800 ≤ c.toNat) (hc' : c.toNat < 0x10000) :
    readChar (0xe0 + c.toNat / 4096).toUInt8 ((0x80 + c.toNat / 64 % 64).toUInt8 ::
      (0x80 + c.toNat % 64).toUInt8 :: rest) = (c, 2) := by
  have hgap := toNat_char c
  have hlead : ((0xe0 + c.toNat / 4096).toUInt8).toNat = 0xe0 + c.toNat / 4096 :=
    toNat_toUInt8 (by omega)
  have hsecond : ((0x80 + c.toNat / 64 % 64).toUInt8).toNat = 0x80 + c.toNat / 64 % 64 :=
    toNat_toUInt8 (by omega)
  have hfollowers : followers (0xe0 + c.toNat / 4096) = some 2 := by
    unfold followers
    rw [if_neg (by omega), if_neg (by omega), if_pos (by omega)]
  have hrange : (secondRange (0xe0 + c.toNat / 4096)).1 ≤ 0x80 + c.toNat / 64 % 64 ∧
      0x80 + c.toNat / 64 % 64 ≤ (secondRange (0xe0 + c.toNat / 4096)).2 := by
    unfold secondRange
    split_ifs <;> simp only <;> omega
  rw [readChar_cons (by rw [hlead, hfollowers]) (by rw [hlead, hsecond]; exact hrange), hlead,
    hsecond]
  have hcode : (leadBits (0xe0 + c.toNat / 4096) 2 * 64 + (0x80 + c.toNat / 64 % 64 - 0x80)) * 64 +
      c.toNat % 64 = c.toNat := by
    have hbits : leadBits (0xe0 + c.toNat / 4096) 2 = c.toNat / 4096 := by simp [leadBits]
    omega
  rw [continueCode_cons (Nat.mod_lt _ (by decide)), hcode]
  simp only [continueCode, Option.elim_some, Char.ofNat_toNat]

theorem readChar_four {c : Char} (hc : 0x10000 ≤ c.toNat) :
    readChar (0xf0 + c.toNat / 262144).toUInt8 ((0x80 + c.toNat / 4096 % 64).toUInt8 ::
      (0x80 + c.toNat / 64 % 64).toUInt8 :: (0x80 + c.toNat % 64).toUInt8 :: rest) = (c, 3) := by
  have hlimit := toNat_char c
  have hlead : ((0xf0 + c.toNat / 262144).toUInt8).toNat = 0xf0 + c.toNat / 262144 :=
    toNat_toUInt8 (by omega)
  have hsecond : ((0x80 + c.toNat / 4096 % 64).toUInt8).toNat = 0x80 + c.toNat / 4096 % 64 :=
    toNat_toUInt8 (by omega)
  have hfollowers : followers (0xf0 + c.toNat / 262144) = some 3 := by
    unfold followers
    rw [if_neg (by omega), if_neg (by omega), if_neg (by omega), if_pos (by omega)]
  have hrange : (secondRange (0xf0 + c.toNat / 262144)).1 ≤ 0x80 + c.toNat / 4096 % 64 ∧
      0x80 + c.toNat / 4096 % 64 ≤ (secondRange (0xf0 + c.toNat / 262144)).2 := by
    unfold secondRange
    split_ifs <;> simp only <;> omega
  rw [readChar_cons (by rw [hlead, hfollowers]) (by rw [hlead, hsecond]; exact hrange), hlead,
    hsecond]
  have hcode : ((leadBits (0xf0 + c.toNat / 262144) 3 * 64 +
      (0x80 + c.toNat / 4096 % 64 - 0x80)) * 64 + c.toNat / 64 % 64) * 64 + c.toNat % 64 =
      c.toNat := by
    have hbits : leadBits (0xf0 + c.toNat / 262144) 3 = c.toNat / 262144 := by simp [leadBits]
    omega
  rw [continueCode_cons (Nat.mod_lt _ (by decide)), continueCode_cons (Nat.mod_lt _ (by decide)),
    hcode]
  simp only [continueCode, Option.elim_some, Char.ofNat_toNat]

theorem ofUtf8_cons {c : Char} (h : readChar lead rest = (c, n)) :
    ofUtf8 (lead :: rest) = c :: ofUtf8 (rest.drop n) := by
  rw [ofUtf8, h]

/-- What is read at the bytes of a character is that character. -/
theorem ofUtf8_append (c : Char) (rest : List UInt8) :
    ofUtf8 (utf8OfChar c ++ rest) = c :: ofUtf8 rest := by
  unfold utf8OfChar
  dsimp only
  split_ifs with h1 h2 h3
  · exact ofUtf8_cons (readChar_one h1)
  · exact ofUtf8_cons (readChar_two (Nat.le_of_not_lt h1) h2)
  · exact ofUtf8_cons (readChar_three (Nat.le_of_not_lt h2) h3)
  · exact ofUtf8_cons (readChar_four (Nat.le_of_not_lt h3))

/-- Texts are read back from their bytes. -/
theorem ofUtf8_utf8 (cs : List Char) : ofUtf8 (utf8 cs) = cs := by
  induction cs with
  | nil => simp [utf8, ofUtf8]
  | cons c cs ih =>
    unfold utf8 at ih ⊢
    rw [List.flatMap_cons, ofUtf8_append, ih]

end CloudDirector.Text
