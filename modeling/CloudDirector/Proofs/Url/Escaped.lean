import CloudDirector.Proofs.Encoding.Form
import CloudDirector.Url.Escaped

/-!
# What is left of escaped characters

Escaping leaves the characters that are not escaped, percent signs and hexadecimal digits. None of
these is escaped anywhere, so a text that was escaped for a place stays as it is when it is escaped
there once more.
-/
namespace CloudDirector.Url
open Text Encoding

variable {c : Char} {cs : List Char} {escaped : Char → Bool}

/-- Characters that neither end what precedes query and fragment nor are trimmed off. -/
def isMainChar (c : Char) : Bool := decide (0x20 < c.toNat) && c != '#' && c != '?'

/-- What percent encoding puts in place of a character. -/
def IsCodeChar (c : Char) : Prop := isFormSafe c = true ∨ c = '%'

theorem toNat_of_isAlphanum (h : c.isAlphanum = true) : 0x30 ≤ c.toNat ∧ c.toNat ≤ 0x7a := by
  change ((decide (65 ≤ c.val ∧ c.val ≤ 90) || (decide (97 ≤ c.val) && decide (c.val ≤ 122))) ||
    (decide (48 ≤ c.val) && decide (c.val ≤ 57))) = true at h
  simp only [Bool.or_eq_true, Bool.and_eq_true, decide_eq_true_eq, UInt32.le_iff_toNat_le] at h
  change ((65 ≤ c.toNat ∧ c.toNat ≤ 90) ∨ (97 ≤ c.toNat ∧ c.toNat ≤ 122)) ∨
    (48 ≤ c.toNat ∧ c.toNat ≤ 57) at h
  omega

theorem IsCodeChar.cases (h : IsCodeChar c) :
    c.isAlphanum = true ∨ c ∈ ['*', '-', '.', '_', '%'] := by
  simp only [IsCodeChar, isFormSafe, Bool.or_eq_true, beq_iff_eq] at h
  simp only [List.mem_cons, List.not_mem_nil, or_false]
  tauto

/-- A property that codes have, they have as soon as letters and digits have it. -/
theorem IsCodeChar.of_alphanum {p : Char → Bool} (h : IsCodeChar c)
    (hletters : c.isAlphanum = true → p c = true) (hmarks : ['*', '-', '.', '_', '%'].all p = true) :
    p c = true := by
  rcases h.cases with h | h
  · exact hletters h
  · exact List.all_eq_true.1 hmarks c h

theorem ne_of_isAlphanum {d : Char} (h : c.isAlphanum = true) (hd : d.isAlphanum = false) : c ≠ d := by
  rintro rfl
  rw [hd] at h
  cases h

theorem isMainChar_of_isAlphanum (h : c.isAlphanum = true) : isMainChar c = true := by
  have hrange := toNat_of_isAlphanum h
  have hgreater : 0x20 < c.toNat := by omega
  simp [isMainChar, hgreater, ne_of_isAlphanum h (d := '#') (by decide),
    ne_of_isAlphanum h (d := '?') (by decide)]

theorem IsCodeChar.isMainChar (h : IsCodeChar c) : isMainChar c = true :=
  h.of_alphanum isMainChar_of_isAlphanum (by decide)

theorem mem_percentEncode (h : c ∈ percentEncode escaped cs) :
    (c ∈ cs ∧ escaped c = false) ∨ IsCodeChar c := by
  obtain ⟨d, hd, hc⟩ := List.mem_flatMap.1 h
  split at hc
  · exact .inr (isFormChar_of_mem_percentChar hc)
  · next hkept =>
    rw [List.mem_singleton.1 hc]
    exact .inl ⟨hd, by simpa using hkept⟩

theorem percentEncode_of_forall (h : ∀ c ∈ cs, escaped c = false) : percentEncode escaped cs = cs := by
  induction cs with
  | nil => rfl
  | cons c cs ih =>
    rw [List.forall_mem_cons] at h
    have htail := ih h.2
    unfold percentEncode at htail ⊢
    simp [h.1, htail]

theorem ne_space_iff : c.toNat ≠ 0x20 ↔ c ≠ ' ' := by
  constructor
  · rintro h rfl
    exact h rfl
  · rintro h heq
    exact h (Char.toNat_inj.1 heq)

theorem toNat_of_escapedAlways (h : escapedAlways c = false) : 0x20 ≤ c.toNat := by
  simp only [escapedAlways, Bool.or_eq_false_iff, decide_eq_false_iff_not] at h
  omega

theorem toNat_of_escapedInFragment (h : escapedInFragment c = false) : 0x20 < c.toNat := by
  simp only [escapedInFragment, withExtra, Bool.or_eq_false_iff] at h
  obtain ⟨halways, hextra⟩ := h
  have hspace : c ≠ ' ' := by
    rintro rfl
    revert hextra
    decide
  have hge := toNat_of_escapedAlways halways
  have hne := ne_space_iff.2 hspace
  omega

theorem isMainChar_of_escapedInPath (h : escapedInPath c = false) : isMainChar c = true := by
  simp only [escapedInPath, Bool.or_eq_false_iff] at h
  obtain ⟨hfragment, hextra⟩ := h
  have hends : c ≠ '#' ∧ c ≠ '?' := by
    constructor <;> rintro rfl <;> revert hextra <;> decide
  simp [isMainChar, toNat_of_escapedInFragment hfragment, hends]

theorem isMainChar_of_escapedInUser (h : escapedInUser c = false) :
    isMainChar c = true ∧ c ≠ '@' := by
  simp only [escapedInUser, Bool.or_eq_false_iff] at h
  obtain ⟨hpath, hextra⟩ := h
  refine ⟨isMainChar_of_escapedInPath hpath, ?_⟩
  rintro rfl
  revert hextra
  decide

theorem toNat_of_escapedInQuery {web : Bool} (h : escapedInQuery web c = false) :
    0x20 < c.toNat ∧ c ≠ '#' := by
  simp only [escapedInQuery, withExtra, Bool.or_eq_false_iff] at h
  obtain ⟨⟨halways, hextra⟩, -⟩ := h
  have hends : c ≠ ' ' ∧ c ≠ '#' := by
    constructor <;> rintro rfl <;> revert hextra <;> decide
  have hge := toNat_of_escapedAlways halways
  have hne := ne_space_iff.2 hends.1
  exact ⟨by omega, hends.2⟩

theorem withExtra_of_isAlphanum {extra : List Char} (hextra : extra.any Char.isAlphanum = false)
    (h : c.isAlphanum = true) : withExtra extra c = false := by
  have hrange := toNat_of_isAlphanum h
  have halways : escapedAlways c = false := by
    simp only [escapedAlways, Bool.or_eq_false_iff, decide_eq_false_iff_not]
    omega
  have hnot : c ∉ extra := by
    intro hmem
    have hsome : extra.any Char.isAlphanum = true := List.any_eq_true.2 ⟨c, hmem, h⟩
    rw [hextra] at hsome
    cases hsome
  simp [withExtra, halways, hnot]

/-- What is escaped in a query stays as it is there. -/
theorem IsCodeChar.escapedInQuery (h : IsCodeChar c) (web : Bool) :
    escapedInQuery web c = false := by
  have hkept : (!Url.escapedInQuery web c) = true := by
    refine h.of_alphanum (p := fun c => !Url.escapedInQuery web c) (fun hletter => ?_) ?_
    · have hrange := toNat_of_isAlphanum hletter
      have hquote : c.toNat ≠ 0x27 := by omega
      simp only [Url.escapedInQuery, beq_eq_false_iff_ne.2 hquote, Bool.and_false, Bool.or_false,
        Bool.not_eq_true']
      exact withExtra_of_isAlphanum (by decide) hletter
    · cases web <;> decide
  simpa using hkept

theorem IsCodeChar.escapedInFragment (h : IsCodeChar c) : escapedInFragment c = false := by
  have hkept : (!Url.escapedInFragment c) = true := by
    refine h.of_alphanum (p := fun c => !Url.escapedInFragment c) (fun hletter => ?_) (by decide)
    rw [Bool.not_eq_true']
    exact withExtra_of_isAlphanum (by decide) hletter
  simpa using hkept

theorem escapedInQuery_percentEncode {web : Bool} :
    ∀ c ∈ percentEncode (escapedInQuery web) cs, escapedInQuery web c = false := by
  intro c hc
  rcases mem_percentEncode hc with ⟨-, h⟩ | h
  · exact h
  · exact h.escapedInQuery web

theorem escapedInFragment_percentEncode :
    ∀ c ∈ percentEncode escapedInFragment cs, escapedInFragment c = false := by
  intro c hc
  rcases mem_percentEncode hc with ⟨-, h⟩ | h
  · exact h
  · exact h.escapedInFragment

end CloudDirector.Url
