import CloudDirector.Encoding.HexNumber
import CloudDirector.Text.Quoted
import Mathlib.Data.Nat.Basic

/-!
# Quoted texts are read back

Each character inside quotes is read back from what it was written as, and a quote that stands
alone ends the text. So no two quoted texts begin a text in common.
-/
namespace CloudDirector.Text
open Encoding

variable {c : Char} {cs rest : List Char}

theorem hexDigitValue_digitChar : ∀ n < 16, hexDigitValue n.digitChar = some n := by decide

theorem hexDigitValue_of_mem_hexDigits {n : Nat} (h : c ∈ hexDigits n) :
    (hexDigitValue c).isSome = true := by
  unfold hexDigits at h
  induction n using Nat.strongRecOn with
  | ind n ih =>
    rw [Nat.toDigits_eq_if (by decide)] at h
    split at h
    case isTrue hn =>
      rw [List.mem_singleton.1 h, hexDigitValue_digitChar n hn]
      rfl
    case isFalse hn =>
      rcases List.mem_append.1 h with hfront | hlast
      · exact ih (n / 16) (by omega) hfront
      · rw [List.mem_singleton.1 hlast, hexDigitValue_digitChar _ (Nat.mod_lt _ (by decide))]
        rfl

theorem hexNumber_hexDigits (n : Nat) : hexNumber (hexDigits n) = n := by
  unfold hexNumber hexDigits
  induction n using Nat.strongRecOn with
  | ind n ih =>
    rw [Nat.toDigits_eq_if (by decide)]
    split
    case isTrue hn => simp [hexDigitValue_digitChar n hn]
    case isFalse hn =>
      rw [List.foldl_append, ih (n / 16) (by omega)]
      simp [hexDigitValue_digitChar (n % 16) (Nat.mod_lt _ (by decide)), Nat.div_add_mod']

/-- The character for which one stands behind a backslash. -/
def unescaped (c : Char) : Char :=
  if c = '0' then Char.ofNat 0
  else if c = 't' then Char.ofNat 9
  else if c = 'n' then Char.ofNat 10
  else if c = 'r' then Char.ofNat 13
  else c

/-- The character that is written first inside quotes, and what follows it; none where a quote that
stands alone ends the text. -/
def readQuotedChar : List Char → Option (Char × List Char)
  | [] => none
  | [c] => if c.toNat = 0x22 then none else some (c, [])
  | c :: d :: rest =>
    if c.toNat = 0x22 then none
    else if c ≠ '\\' then some (c, d :: rest)
    else if d ≠ 'u' then some (unescaped d, rest)
    else
      let digits := (rest.drop 1).takeWhile fun d => (hexDigitValue d).isSome
      some (Char.ofNat (hexNumber digits), rest.drop (digits.length + 2))

theorem readQuotedChar_shown (hquote : c.toNat ≠ 0x22) (hbackslash : c ≠ '\\') :
    readQuotedChar (c :: rest) = some (c, rest) := by
  cases rest <;> simp [readQuotedChar, hquote, hbackslash]

theorem readQuotedChar_escaped {d : Char} (hd : unescaped d = c) (h : d ≠ 'u') :
    readQuotedChar ('\\' :: d :: rest) = some (c, rest) := by
  have hbackslash : ('\\' : Char).toNat ≠ 0x22 := by decide
  simp only [readQuotedChar, if_neg hbackslash, if_pos h, hd, ne_eq, not_true_eq_false, if_false]

theorem readQuotedChar_numbered (n : Nat) (rest : List Char) :
    readQuotedChar ('\\' :: 'u' :: Char.ofNat 0x7b :: hexDigits n ++ Char.ofNat 0x7d :: rest) =
      some (Char.ofNat n, rest) := by
  have hclose : (hexDigitValue (Char.ofNat 0x7d)).isSome = false := by decide
  have hdigits : (hexDigits n ++ Char.ofNat 0x7d :: rest).takeWhile
      (fun d => (hexDigitValue d).isSome) = hexDigits n := by
    rw [List.takeWhile_append_of_pos fun _ => hexDigitValue_of_mem_hexDigits,
      List.takeWhile_cons_of_neg (by simp [hclose]), List.append_nil]
  simp [readQuotedChar, hdigits, hexNumber_hexDigits]

theorem readQuotedChar_quoteChar (c : Char) (rest : List Char) :
    readQuotedChar (quoteChar c ++ rest) = some (c, rest) := by
  have hnumber (n : Nat) (h : c.toNat = n) : Char.ofNat n = c := by rw [← h, Char.ofNat_toNat]
  unfold quoteChar
  split_ifs with hquote hbackslash hzero htab hline hreturn
  · obtain rfl := hnumber _ hquote
    exact readQuotedChar_escaped rfl (by decide)
  · obtain rfl := hnumber _ hbackslash
    exact readQuotedChar_escaped rfl (by decide)
  · exact readQuotedChar_escaped (hnumber _ hzero) (by decide)
  · exact readQuotedChar_escaped (hnumber _ htab) (by decide)
  · exact readQuotedChar_escaped (hnumber _ hline) (by decide)
  · exact readQuotedChar_escaped (hnumber _ hreturn) (by decide)
  · simpa [Char.ofNat_toNat] using readQuotedChar_numbered c.toNat rest
  · refine readQuotedChar_shown hquote ?_
    rintro rfl
    exact hbackslash rfl

theorem readQuotedChar_quote (rest : List Char) :
    readQuotedChar (Char.ofNat 0x22 :: rest) = none := by
  cases rest <;> rfl

theorem readQuotedChar_cons (c : Char) (cs rest : List Char) :
    readQuotedChar ((c :: cs).flatMap quoteChar ++ rest) =
      some (c, cs.flatMap quoteChar ++ rest) := by
  rw [List.flatMap_cons, List.append_assoc, readQuotedChar_quoteChar]

/-- Characters inside quotes are told apart, whatever stands behind the closing quote. -/
theorem flatMap_quoteChar_inj {cs' rest' : List Char}
    (h : cs.flatMap quoteChar ++ Char.ofNat 0x22 :: rest =
      cs'.flatMap quoteChar ++ Char.ofNat 0x22 :: rest') : cs = cs' := by
  induction cs generalizing cs' with
  | nil =>
    cases cs' with
    | nil => rfl
    | cons d cs' =>
      have hread := congrArg readQuotedChar h
      rw [List.flatMap_nil, List.nil_append, readQuotedChar_quote, readQuotedChar_cons] at hread
      cases hread
  | cons c cs ih =>
    have hread := congrArg readQuotedChar h
    cases cs' with
    | nil =>
      rw [List.flatMap_nil, List.nil_append, readQuotedChar_quote, readQuotedChar_cons] at hread
      cases hread
    | cons d cs' =>
      rw [readQuotedChar_cons, readQuotedChar_cons] at hread
      obtain ⟨rfl, htail⟩ := Prod.mk.inj (Option.some.inj hread)
      rw [ih htail]

end CloudDirector.Text
