import CloudDirector.Encoding.Form
import CloudDirector.Proofs.Text.Cutting
import CloudDirector.Proofs.Text.Utf8

/-!
# Forms are read back

A name and a value come back from the text of a query as they were, whatever characters they have:
what separates names, values and pairs is percent-encoded in them, and so is the percent sign.
-/
namespace CloudDirector.Encoding
open Text

variable {c : Char} {cs rest query : List Char}

theorem hexDigitValue_hexDigit : ∀ n < 16, hexDigitValue (hexDigit n) = some n := by decide

theorem percentDecode_percentByte (b : UInt8) (rest : List Char) :
    percentDecode (percentByte b ++ rest) = b :: percentDecode rest := by
  have hb : b.toNat < 256 := b.toNat_lt
  have hbyte : (b.toNat / 16 * 16 + b.toNat % 16).toUInt8 = b := by
    rw [Nat.div_add_mod']
    simp
  simp only [percentByte, List.cons_append, List.nil_append, percentDecode,
    hexDigitValue_hexDigit _ (by omega : b.toNat / 16 < 16),
    hexDigitValue_hexDigit _ (by omega : b.toNat % 16 < 16), hbyte]

theorem percentDecode_percentChar (c : Char) (rest : List Char) :
    percentDecode (percentChar c ++ rest) = utf8OfChar c ++ percentDecode rest := by
  unfold percentChar
  induction utf8OfChar c with
  | nil => rfl
  | cons b bytes ih =>
    rw [List.flatMap_cons, List.append_assoc, percentDecode_percentByte, ih, List.cons_append]

theorem percentDecode_cons (h : c ≠ '%') :
    percentDecode (c :: rest) = utf8OfChar c ++ percentDecode rest := by
  rw [percentDecode]
  rintro a b rest rfl
  exact absurd rfl h

theorem percentChar_ne_nil (c : Char) : percentChar c ≠ [] := by
  unfold percentChar utf8OfChar
  dsimp only
  split_ifs <;> simp [percentByte]

/-- The characters of the texts of names and values. -/
def IsFormChar (c : Char) : Prop := isFormSafe c = true ∨ c = '+' ∨ c = '%'

theorem isFormSafe_hexDigit : ∀ n < 16, isFormSafe (hexDigit n) = true := by decide

theorem isFormChar_of_mem_percentChar {d : Char} (h : d ∈ percentChar c) :
    isFormSafe d = true ∨ d = '%' := by
  obtain ⟨b, -, hd⟩ := List.mem_flatMap.1 h
  have hb : b.toNat < 256 := b.toNat_lt
  simp only [percentByte, List.mem_cons, List.not_mem_nil, or_false] at hd
  rcases hd with rfl | rfl | rfl
  · exact .inr rfl
  · exact .inl (isFormSafe_hexDigit _ (by omega))
  · exact .inl (isFormSafe_hexDigit _ (by omega))

theorem isFormChar_of_mem_formText (h : c ∈ formText cs) : IsFormChar c := by
  obtain ⟨d, -, hc⟩ := List.mem_flatMap.1 h
  unfold formChar at hc
  split_ifs at hc with hsafe hspace
  · rw [List.mem_singleton.1 hc]
    exact .inl hsafe
  · rw [List.mem_singleton.1 hc]
    exact .inr (.inl rfl)
  · exact (isFormChar_of_mem_percentChar hc).imp_right .inr

theorem IsFormChar.ne (h : IsFormChar c) {d : Char} (hd : isFormSafe d = false) (hplus : d ≠ '+')
    (hpercent : d ≠ '%') : (c == d) = false := by
  rw [beq_eq_false_iff_ne]
  rintro rfl
  rcases h with h | h | h
  · rw [hd] at h
    cases h
  · exact hplus h
  · exact hpercent h

/-- How a form text is read: a plus sign is a space. -/
def unplus (c : Char) : Char := if c = '+' then ' ' else c

theorem map_unplus_percentChar (c : Char) : (percentChar c).map unplus = percentChar c := by
  refine (List.map_congr_left fun d hd => ?_).trans (List.map_id _)
  refine if_neg ?_
  rintro rfl
  exact absurd (isFormChar_of_mem_percentChar hd) (by decide)

theorem percentDecode_formChar (c : Char) (rest : List Char) :
    percentDecode ((formChar c).map unplus ++ rest) = utf8OfChar c ++ percentDecode rest := by
  unfold formChar
  split_ifs with hsafe hspace
  · have hplus : c ≠ '+' := by
      rintro rfl
      exact absurd hsafe (by decide)
    have hpercent : c ≠ '%' := by
      rintro rfl
      exact absurd hsafe (by decide)
    simp only [List.map_singleton, unplus, if_neg hplus]
    exact percentDecode_cons hpercent
  · subst hspace
    exact percentDecode_cons (by decide)
  · rw [map_unplus_percentChar]
    exact percentDecode_percentChar c rest

theorem percentDecode_formText (cs : List Char) :
    percentDecode ((formText cs).map unplus) = utf8 cs := by
  induction cs with
  | nil => simp [formText, utf8, percentDecode]
  | cons c cs ih =>
    unfold formText utf8 at ih ⊢
    rw [List.flatMap_cons, List.map_append, percentDecode_formChar, ih, List.flatMap_cons]

/-- A name or a value is read back from its text, whatever characters it has. -/
theorem unformText_formText (s : String) : unformText (formText s.toList) = s := by
  have hread : unformText (formText s.toList) =
      String.ofList (ofUtf8 (percentDecode ((formText s.toList).map unplus))) := rfl
  rw [hread, percentDecode_formText, ofUtf8_utf8, String.ofList_toList]

def pairOf (part : List Char) : String × String :=
  match cutFirst (· == '=') part with
  | some (name, value) => (unformText name, unformText value)
  | none => (unformText part, "")

theorem unformPairs_eq (query : List Char) :
    unformPairs query = ((pieces (· == '&') query).filter (· ≠ [])).map pairOf := rfl

theorem pairOf_formPair (p : String × String) : pairOf (formPair p) = p := by
  have hname : ∀ c ∈ formText p.1.toList, (c == '=') = false := fun c hc =>
    (isFormChar_of_mem_formText hc).ne (by decide) (by decide) (by decide)
  unfold pairOf formPair
  rw [cutFirst_append_cons hname (by simp)]
  simp only [unformText_formText]

theorem pieces_formPair (p : String × String) : pieces (· == '&') (formPair p) = [formPair p] := by
  refine pieces_of_forall fun c hc => ?_
  have hform {cs : List Char} (hc : c ∈ formText cs) : (c == '&') = false :=
    (isFormChar_of_mem_formText hc).ne (by decide) (by decide) (by decide)
  rw [formPair, List.mem_append, List.mem_cons] at hc
  rcases hc with hc | rfl | hc
  · exact hform hc
  · decide
  · exact hform hc

/-- A pair that is added to a query is read behind all others. -/
theorem unformPairs_appendFormPair (query : List Char) (p : String × String) :
    unformPairs (appendFormPair query p) = unformPairs query ++ [p] := by
  have hne : formPair p ≠ [] := by simp [formPair]
  have hone : [formPair p].filter (· ≠ []) = [formPair p] := by simp [hne]
  unfold appendFormPair
  split_ifs with hquery
  · rw [hquery, List.nil_append, unformPairs_eq, pieces_formPair, hone, List.map_singleton,
      pairOf_formPair]
    rfl
  · rw [unformPairs_eq, List.append_assoc, List.singleton_append, pieces_append_cons (by simp),
      pieces_formPair, List.filter_append, List.map_append, hone, List.map_singleton,
      pairOf_formPair]
    rfl

end CloudDirector.Encoding
