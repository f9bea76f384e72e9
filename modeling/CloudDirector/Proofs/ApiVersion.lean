import CloudDirector.Credential.Multisite
import CloudDirector.Proofs.Text.Cutting
import CloudDirector.Proofs.Time.Rfc3339
import Mathlib.Data.Prod.Lex

/-!
# Versions and their texts

A text names a version just if it begins, white space apart, with one or two numbers between
separators; what follows a second separator does not count. So the text of a version names it,
whatever is added behind a separator. Versions are ordered by their first, then by their second
number, and so is the form of signatures that each uses.
-/
namespace CloudDirector.ApiVersion
open Text

/-- Digits spell a number that is in range; a plus sign may stand in front of them. -/
def Spells (cs : List Char) (n : Nat) : Prop :=
  ∃ ds : List Char, (cs = ds ∨ cs = '+' :: ds) ∧ ds ≠ [] ∧ (∀ c ∈ ds, c.isDigit = true) ∧
    Nat.ofDigitChars 10 ds 0 = n ∧ n < 2 ^ 32

/-- A text names a version by one number, or by two, behind which there may be anything. -/
inductive Names : List Char → ApiVersion → Prop
  | major {a : List Char} {m : Nat} (first : Spells a m) : Names a ⟨m, 0⟩
  | minor {a b : List Char} {c : Char} {m n : Nat} (first : Spells a m)
    (sep : c = '.' ∨ c = '-') (second : Spells b n) : Names (a ++ c :: b) ⟨m, n⟩
  | further {a b rest : List Char} {c d : Char} {m n : Nat} (first : Spells a m)
    (sep : c = '.' ∨ c = '-') (second : Spells b n) (sep' : d = '.' ∨ d = '-') :
    Names (a ++ c :: (b ++ d :: rest)) ⟨m, n⟩

variable {cs s : List Char} {n : Nat} {v : ApiVersion}

theorem number?_eq_some : number? cs = some n ↔ Spells cs n := by
  have hdigits (ds : List Char) : (let n := ds.foldl (fun n c => n * 10 + (c.toNat - 48)) 0
      if ds ≠ [] ∧ ds.all Char.isDigit ∧ n < numberLimit then some n else none) = some n ↔
        ds ≠ [] ∧ (∀ c ∈ ds, c.isDigit = true) ∧ Nat.ofDigitChars 10 ds 0 = n ∧ n < 2 ^ 32 := by
    simp only [Time.foldl_digits, List.all_eq_true, numberLimit, Option.ite_none_right_eq_some,
      Option.some.injEq]
    constructor
    · rintro ⟨⟨hne, hall, hlt⟩, rfl⟩
      exact ⟨hne, hall, rfl, hlt⟩
    · rintro ⟨hne, hall, rfl, hlt⟩
      exact ⟨⟨hne, hall, hlt⟩, rfl⟩
  unfold number? Spells
  split
  case h_1 rest =>
    rw [hdigits]
    constructor
    · exact fun h => ⟨rest, .inr rfl, h⟩
    · rintro ⟨ds, rfl | hcs, hne, hall, hn⟩
      · exact absurd (hall '+' List.mem_cons_self) (by decide)
      · cases hcs
        exact ⟨hne, hall, hn⟩
  case h_2 hplus =>
    rw [hdigits]
    constructor
    · exact fun h => ⟨cs, .inl rfl, h⟩
    · rintro ⟨ds, rfl | rfl, h⟩
      · exact h
      · exact absurd rfl (hplus ds)

theorem isSeparator_iff {c : Char} : isSeparator c = true ↔ c = '.' ∨ c = '-' := by
  simp [isSeparator]

theorem isSeparator_of_isDigit {c : Char} (h : c.isDigit = true) : isSeparator c = false := by
  rw [Bool.eq_false_iff, ne_eq, isSeparator_iff]
  rintro (rfl | rfl) <;> revert h <;> decide

theorem isBlank_of_isSeparator {c : Char} (h : isSeparator c = true) : isBlank c = false := by
  rcases isSeparator_iff.1 h with rfl | rfl <;> decide

theorem Spells.isSeparator_eq_false (h : Spells cs n) : ∀ c ∈ cs, isSeparator c = false := by
  obtain ⟨ds, rfl | rfl, -, hall, -⟩ := h
  · exact fun c hc => isSeparator_of_isDigit (hall c hc)
  · exact List.forall_mem_cons.2 ⟨by decide, fun c hc => isSeparator_of_isDigit (hall c hc)⟩

theorem names_of_pieces_eq_singleton {a : List Char} {m : Nat} (ha : Spells a m)
    (h : pieces isSeparator cs = [a]) : Names cs ⟨m, 0⟩ := by
  obtain ⟨-, ⟨rfl, -⟩ | ⟨c, after, -, -, hafter⟩⟩ := pieces_eq_cons.1 h
  · exact .major ha
  · exact absurd hafter (pieces_ne_nil _ after)

theorem names_of_pieces_eq_cons_cons {a b : List Char} {more : List (List Char)} {m : Nat}
    (ha : Spells a m) (hb : Spells b n) (h : pieces isSeparator cs = a :: b :: more) :
    Names cs ⟨m, n⟩ := by
  obtain ⟨-, ⟨-, hmore⟩ | ⟨c, after, rfl, hc, hafter⟩⟩ := pieces_eq_cons.1 h
  · cases hmore
  · obtain ⟨-, ⟨rfl, -⟩ | ⟨d, rest, rfl, hd, -⟩⟩ := pieces_eq_cons.1 hafter
    · exact .minor ha (isSeparator_iff.1 hc) hb
    · exact .further ha (isSeparator_iff.1 hc) hb (isSeparator_iff.1 hd)

theorem ofChars?_eq_some : ofChars? cs = some v ↔ Names (trimBlank cs) v := by
  unfold ofChars?
  constructor
  · intro h
    split at h
    case h_1 hnil => exact absurd hnil (pieces_ne_nil _ _)
    case h_2 hpieces =>
      obtain ⟨m, hm, rfl⟩ := Option.map_eq_some_iff.1 h
      exact names_of_pieces_eq_singleton (number?_eq_some.1 hm) hpieces
    case h_3 hpieces =>
      obtain ⟨m, hm, h⟩ := Option.bind_eq_some_iff.1 h
      obtain ⟨n, hn, h⟩ := Option.bind_eq_some_iff.1 h
      cases h
      exact names_of_pieces_eq_cons_cons (number?_eq_some.1 hm) (number?_eq_some.1 hn) hpieces
  · generalize trimBlank cs = t
    intro h
    cases h with
    | major first =>
      rw [pieces_of_forall first.isSeparator_eq_false]
      simp [number?_eq_some.2 first]
    | minor first sep second =>
      rw [pieces_append_cons (isSeparator_iff.2 sep),
        pieces_of_forall first.isSeparator_eq_false, pieces_of_forall second.isSeparator_eq_false]
      simp [number?_eq_some.2 first, number?_eq_some.2 second]
    | further first sep second sep' =>
      rw [pieces_append_cons (isSeparator_iff.2 sep), pieces_append_cons (isSeparator_iff.2 sep'),
        pieces_of_forall first.isSeparator_eq_false, pieces_of_forall second.isSeparator_eq_false]
      simp [number?_eq_some.2 first, number?_eq_some.2 second]

theorem ofText_eq_ok {text : String} : ofText text = .ok v ↔ Names (trimBlank text.toList) v := by
  rw [← ofChars?_eq_some]
  unfold ofText
  cases ofChars? text.toList <;> simp

theorem ofText_eq_error {text : String} (h : ∀ v, ¬ Names (trimBlank text.toList) v) :
    ofText text = .error (.configuration (.version text)) := by
  have hnone : ofChars? text.toList = none :=
    Option.eq_none_iff_forall_ne_some.2 fun v hv => h v (ofChars?_eq_some.1 hv)
  unfold ofText
  rw [hnone]

theorem spells_toDigits (hn : n < 2 ^ 32) : Spells (Nat.toDigits 10 n) n :=
  ⟨_, .inl rfl, Nat.toDigits_ne_nil,
    fun _ hc => Nat.isDigit_of_mem_toDigits (by decide) (by decide) hc,
    Nat.ofDigitChars_ten_toDigits, hn⟩

theorem toList_text (v : ApiVersion) :
    v.text.toList = Nat.toDigits 10 v.major ++ '.' :: Nat.toDigits 10 v.minor := by
  simp [text]

theorem isBlank_of_mem_text {c : Char} (h : c ∈ v.text.toList) : isBlank c = false := by
  have hdigits (n : Nat) (hc : c ∈ Nat.toDigits 10 n) : isBlank c = false :=
    Time.isBlank_of_isDigit (Nat.isDigit_of_mem_toDigits (by decide) (by decide) hc)
  rw [toList_text, List.mem_append, List.mem_cons] at h
  rcases h with h | rfl | h
  · exact hdigits _ h
  · decide
  · exact hdigits _ h

/-- A written version is named by its text, also if more stands behind a separator. -/
theorem names_text_append (hmajor : v.major < 2 ^ 32) (hminor : v.minor < 2 ^ 32)
    (hs : ∀ c, s.head? = some c → isSeparator c = true) : Names (trimBlank (v.text.toList ++ s)) v := by
  cases s with
  | nil =>
    rw [List.append_nil, trimBlank, trimBoth_of_forall fun _ => isBlank_of_mem_text, toList_text]
    exact .minor (spells_toDigits hmajor) (.inl rfl) (spells_toDigits hminor)
  | cons d rest =>
    have hd : isSeparator d = true := hs d rfl
    rw [trimBlank, trimBoth_append_cons (fun _ => isBlank_of_mem_text) (isBlank_of_isSeparator hd),
      toList_text, List.append_assoc, List.cons_append]
    exact .further (spells_toDigits hmajor) (.inl rfl) (spells_toDigits hminor)
      (isSeparator_iff.1 hd)

theorem atMost_iff_toLex_le {a b : ApiVersion} :
    a.atMost b = true ↔ toLex (a.major, a.minor) ≤ toLex (b.major, b.minor) := by
  simp [atMost, Prod.Lex.toLex_le_toLex]

theorem ofVersion_eq : SignatureForm.ofVersion v =
    if toLex (v.major, v.minor) ≤ toLex (30, 0) then .legacy else .second := by
  unfold SignatureForm.ofVersion
  simp only [atMost_iff_toLex_le, lastOldSignature]

theorem form_of_make {site org : Uuid} {user orgName pem : String} {login : MultisiteLogin}
    (h : MultisiteLogin.make site org user orgName pem v = .ok login) :
    login.form = .ofVersion v := by
  unfold MultisiteLogin.make at h
  split at h
  case h_1 => cases h
  case h_2 =>
    cases h
    rfl

/-- A text is read as the version that it names, and refused if it names none. What is written for a
version names it, whatever stands behind a further separator. Versions are ordered by their numbers,
and this order decides which form of signatures a login has. -/
theorem ofText_names :
    (∀ text v, ofText text = .ok v ↔ Names (trimBlank text.toList) v) ∧
    (∀ text, (∀ v, ¬ Names (trimBlank text.toList) v) →
      ofText text = .error (.configuration (.version text))) ∧
    (∀ v : ApiVersion, v.major < 2 ^ 32 → v.minor < 2 ^ 32 → ∀ s : String,
      (∀ c, s.toList.head? = some c → c = '.' ∨ c = '-') → ofText (v.text ++ s) = .ok v) ∧
    (∀ a b : ApiVersion,
      a.atMost b = true ↔ toLex (a.major, a.minor) ≤ toLex (b.major, b.minor)) ∧
    ∀ site org user orgName pem v login,
      MultisiteLogin.make site org user orgName pem v = .ok login →
        login.form = if toLex (v.major, v.minor) ≤ toLex (30, 0) then .legacy else .second := by
  refine ⟨fun _ _ => ofText_eq_ok, fun _ => ofText_eq_error, ?_, fun _ _ => atMost_iff_toLex_le, ?_⟩
  · intro v hmajor hminor s hs
    rw [ofText_eq_ok, String.toList_append]
    exact names_text_append hmajor hminor fun c hc => isSeparator_iff.2 (hs c hc)
  · intro site org user orgName pem v login h
    rw [form_of_make h, ofVersion_eq]

/-- A version is read from a text that goes on behind its second number. -/
theorem ofText_names_before_suffix :
    (∀ c, ".0-alpha".toList.head? = some c → c = '.' ∨ c = '-') ∧
      ofText "37.0.0-alpha" = .ok ⟨37, 0⟩ := by
  have hsuffix : ∀ c, ".0-alpha".toList.head? = some c → c = '.' ∨ c = '-' := by simp
  exact ⟨hsuffix, ofText_names.2.2.1 ⟨37, 0⟩ (by decide) (by decide) ".0-alpha" hsuffix⟩

end CloudDirector.ApiVersion
