import CloudDirector.Proofs.Url.Hosts

/-!
# Parts of URLs that are shown

A scheme is read in lower case, and comes back from the text that it begins. Users, passwords and
hosts hold no at sign, and neither they nor the segments of a path hold anything at which a URL is
cut into its parts.
-/
namespace CloudDirector.Url
open Text Encoding

variable {scheme cs rest : List Char} {c : Char}

theorem exists_of_bind_eq_ok {ε α β : Type} {x : Except ε α} {f : α → Except ε β} {b : β}
    (h : x >>= f = .ok b) : ∃ a, x = .ok a ∧ f a = .ok b := by
  cases x with
  | error e => cases h
  | ok a => exact ⟨a, rfl, h⟩

/-- A scheme in lower case. -/
structure IsScheme (cs : List Char) : Prop where
  first : ∃ c rest, cs = c :: rest ∧ c.isAlpha = true
  chars : ∀ c ∈ cs, isSchemeChar c = true ∧ c.toLower = c

theorem toNat_of_isSchemeChar (h : isSchemeChar c = true) : c.toNat < 128 := by
  simp only [isSchemeChar, Bool.or_eq_true, beq_iff_eq] at h
  rcases h with ((h | rfl) | rfl) | rfl
  · have hrange := toNat_of_isAlphanum h
    omega
  all_goals decide

/-- Small letters: what is true of all characters of ASCII. -/
theorem toLower_of_ascii (h : c.toNat < 128) :
    c.toLower.toLower = c.toLower ∧ (c.isAlpha = true → c.toLower.isAlpha = true) ∧
      (isSchemeChar c = true → isSchemeChar c.toLower = true) := by
  have hall : ∀ n < 128, (Char.ofNat n).toLower.toLower = (Char.ofNat n).toLower ∧
      ((Char.ofNat n).isAlpha = true → (Char.ofNat n).toLower.isAlpha = true) ∧
      (isSchemeChar (Char.ofNat n) = true → isSchemeChar (Char.ofNat n).toLower = true) := by
    decide +kernel
  have hc := hall c.toNat h
  rwa [Char.ofNat_toNat] at hc

theorem isScheme_of_schemeOf (h : schemeOf cs = some (scheme, rest)) :
    IsScheme scheme ∧ ∃ name, cs = name ++ ':' :: rest := by
  unfold schemeOf at h
  split at h
  case h_2 => cases h
  case h_1 c tail =>
    split at h
    case isFalse => cases h
    case isTrue halpha =>
      split at h
      case h_2 => cases h
      case h_1 after hdrop =>
        have hsplit := List.takeWhile_append_dropWhile (p := isSchemeChar) (l := c :: tail)
        rw [hdrop] at hsplit
        cases h
        have hletter : isSchemeChar c = true := by simp [isSchemeChar, Char.isAlphanum, halpha]
        refine ⟨⟨⟨c.toLower, (tail.takeWhile isSchemeChar).map Char.toLower, ?_, ?_⟩, ?_⟩,
          _, hsplit.symm⟩
        · rw [List.takeWhile_cons, if_pos hletter, List.map_cons]
        · exact (toLower_of_ascii (toNat_of_isSchemeChar hletter)).2.1 halpha
        · intro d hd
          obtain ⟨e, he, rfl⟩ := List.mem_map.1 hd
          have hscheme := List.mem_takeWhile_imp he
          obtain ⟨hlower, -, hkeeps⟩ := toLower_of_ascii (toNat_of_isSchemeChar hscheme)
          exact ⟨hkeeps hscheme, hlower⟩

/-- A scheme is read back in front of its colon. -/
theorem IsScheme.schemeOf (h : IsScheme scheme) (rest : List Char) :
    schemeOf (scheme ++ ':' :: rest) = some (scheme, rest) := by
  obtain ⟨⟨c, tail, rfl, halpha⟩, hchars⟩ := h
  have hkept : ∀ d ∈ c :: tail, isSchemeChar d = true := fun d hd => (hchars d hd).1
  have hlower : (c :: tail).map Char.toLower = c :: tail :=
    (List.map_congr_left fun d hd => (hchars d hd).2).trans (List.map_id _)
  have hcolon : isSchemeChar ':' = false := by decide
  have htake : ((c :: tail) ++ ':' :: rest).takeWhile isSchemeChar = c :: tail := by
    rw [List.takeWhile_append_of_pos hkept]
    simp [hcolon]
  have hdrop : ((c :: tail) ++ ':' :: rest).dropWhile isSchemeChar = ':' :: rest := by
    rw [List.dropWhile_append_of_pos hkept]
    simp [hcolon]
  unfold Url.schemeOf
  simp only [List.cons_append] at htake hdrop ⊢
  simp only [halpha, if_true, hdrop, htake, hlower]

theorem isMainChar_of_isSchemeChar (h : isSchemeChar c = true) : isMainChar c = true := by
  simp only [isSchemeChar, Bool.or_eq_true, beq_iff_eq] at h
  rcases h with ((h | rfl) | rfl) | rfl
  · exact isMainChar_of_isAlphanum h
  all_goals decide

/-- User, password and host hold none of the characters that end them. -/
structure Authority.IsShown (a : Authority) : Prop where
  user : IsHostText a.user
  password : ∀ p, a.password = some p → IsHostText p
  host : IsHostText a.host

theorem isHostText_percentEncode_user (cs : List Char) :
    IsHostText (percentEncode escapedInUser cs) := by
  intro c hc
  rcases mem_percentEncode hc with ⟨-, h⟩ | h
  · simp [isHostChar, isMainChar_of_escapedInUser h]
  · exact h.of_alphanum isHostChar_of_isAlphanum (by decide)

theorem isHostText_userOf (cs : List Char) :
    IsHostText (userOf cs).1 ∧ ∀ p, (userOf cs).2 = some p → IsHostText p := by
  unfold userOf
  dsimp only
  split
  · exact ⟨isHostText_percentEncode_user _, nofun⟩
  · refine ⟨isHostText_percentEncode_user _, fun p hp => ?_⟩
    dsimp only at hp
    split at hp
    · cases hp
    · cases hp
      exact isHostText_percentEncode_user _

theorem isHostText_host {host : List Char} (h : host? scheme cs = .ok host) : IsHostText host := by
  unfold host? at h
  split at h
  · exact isHostText_webHost h
  · exact isHostText_otherHost h

theorem isHostText_hostOf {found : List Char × Option Nat × List Char}
    (h : hostOf scheme cs = .ok found) : IsHostText found.1 := by
  unfold hostOf at h
  dsimp only at h
  split at h
  · cases h
  · obtain ⟨host, hhost, h⟩ := exists_of_bind_eq_ok h
    have hshown := isHostText_host hhost
    split at h
    · split at h
      · cases h
      · obtain ⟨_, -, h⟩ := exists_of_bind_eq_ok h
        cases h
        exact hshown
    · cases h
      exact hshown

theorem isShown_authorityOf {more : Bool} {found : Authority × List Char}
    (h : authorityOf scheme more cs = .ok found) : found.1.IsShown := by
  unfold authorityOf at h
  dsimp only at h
  split at h
  · cases h
  · obtain ⟨⟨host, port, rest⟩, hhost, h⟩ := exists_of_bind_eq_ok h
    obtain ⟨huser, hpassword⟩ := isHostText_userOf ((cutUser (isWeb scheme) cs).1.getD [])
    dsimp only at h
    split at h
    · cases h
    · cases h
      exact ⟨huser, hpassword, isHostText_hostOf hhost⟩

theorem isMainChar_of_isHostChar (h : isHostChar c = true) : isMainChar c = true ∧ c ≠ '@' := by
  simpa [isHostChar] using h

/-- An authority does not begin with an at sign, and is all of one piece. -/
theorem Authority.IsShown.chars {a : Authority} (h : a.IsShown) :
    (∀ c ∈ a.chars, isMainChar c = true) ∧ a.chars.head? ≠ some '@' := by
  have htext {cs : List Char} (h : IsHostText cs) :
      (∀ c ∈ cs, isMainChar c = true) ∧ cs.head? ≠ some '@' :=
    ⟨fun c hc => (isMainChar_of_isHostChar (h c hc)).1,
      fun hhead => (isMainChar_of_isHostChar (h _ (List.mem_of_head? hhead))).2 rfl⟩
  obtain ⟨huser, huserhead⟩ := htext h.user
  obtain ⟨hhost, hhosthead⟩ := htext h.host
  have hinfo : (∀ c ∈ a.userinfo, isMainChar c = true) ∧ a.userinfo.head? ≠ some '@' := by
    unfold userinfo
    split
    · next p hp =>
      refine ⟨?_, ?_⟩
      · simp only [List.forall_mem_append, List.forall_mem_cons]
        exact ⟨⟨huser, by decide, (htext (h.password p hp)).1⟩, by decide, List.forall_mem_nil _⟩
      · cases hcs : a.user with
        | nil => simp
        | cons c cs => simpa [hcs] using huserhead
    · split
      · exact ⟨List.forall_mem_nil _, by simp⟩
      · next hne =>
        refine ⟨List.forall_mem_append.2 ⟨huser, by decide⟩, ?_⟩
        rw [List.head?_append_of_ne_nil _ hne]
        exact huserhead
  have hport : (∀ c ∈ a.port.elim [] fun n => ':' :: Nat.toDigits 10 n, isMainChar c = true) ∧
      (a.port.elim [] fun n => ':' :: Nat.toDigits 10 n).head? ≠ some '@' := by
    cases a.port with
    | none => exact ⟨List.forall_mem_nil _, by simp⟩
    | some n =>
      have hhost : IsHostText (Nat.toDigits 10 n) := isHostText_toDigits (by decide) (by decide) n
      have hdigits := htext hhost
      exact ⟨List.forall_mem_cons.2 ⟨by decide, hdigits.1⟩, by simp⟩
  unfold Authority.chars
  refine ⟨List.forall_mem_append.2 ⟨List.forall_mem_append.2 ⟨hinfo.1, hhost⟩, hport.1⟩, ?_⟩
  rw [List.head?_append, List.head?_append]
  cases hi : a.userinfo.head? with
  | some c => simpa [hi] using hinfo.2
  | none =>
    cases hh : a.host.head? with
    | some c => simpa [hh] using hhosthead
    | none => simpa using hport.2

/-- Characters of the segments of a path. -/
def isSegmentChar (c : Char) : Bool := isMainChar c && c != '/'

def IsShownPath (segments : List (List Char)) : Prop :=
  ∀ s ∈ segments, ∀ c ∈ s, isSegmentChar c = true

variable {segments above : List (List Char)}

theorem isShownPath_nil : IsShownPath [] := List.forall_mem_nil _

theorem isShownPath_root : IsShownPath [[]] := List.forall_mem_singleton.2 (List.forall_mem_nil _)

theorem IsShownPath.append {more : List (List Char)} (h : IsShownPath segments)
    (h' : IsShownPath more) : IsShownPath (segments ++ more) := List.forall_mem_append.2 ⟨h, h'⟩

theorem IsShownPath.subset {fewer : List (List Char)} (h : IsShownPath segments)
    (hsub : fewer ⊆ segments) : IsShownPath fewer := fun s hs => h s (hsub hs)

theorem IsShownPath.chars (h : IsShownPath segments) :
    ∀ c ∈ (Path.segments segments).chars, isMainChar c = true := by
  intro c hc
  obtain ⟨s, hs, hc⟩ := List.mem_flatMap.1 hc
  rcases List.mem_cons.1 hc with rfl | hc
  · decide
  · have hchar := h s hs c hc
    rw [isSegmentChar, Bool.and_eq_true] at hchar
    exact hchar.1

theorem isSegmentChar_percentEncode (h : '/' ∉ cs) :
    ∀ c ∈ percentEncode escapedInPath cs, isSegmentChar c = true := by
  intro c hc
  rcases mem_percentEncode hc with ⟨hmem, hkept⟩ | hcode
  · have hne : c ≠ '/' := by
      rintro rfl
      exact h hmem
    simp [isSegmentChar, isMainChar_of_escapedInPath hkept, hne]
  · refine hcode.of_alphanum (fun hletter => ?_) (by decide)
    simp [isSegmentChar, isMainChar_of_isAlphanum hletter,
      ne_of_isAlphanum hletter (d := '/') (by decide)]

/-- Dots may drop what is there; what is added is escaped. -/
theorem isShownPath_addSegments {parts : List (List Char)} (hparts : ∀ part ∈ parts, '/' ∉ part)
    (h : IsShownPath segments) : IsShownPath (addSegments segments parts) := by
  induction parts generalizing segments with
  | nil => exact h
  | cons s parts ih =>
    obtain ⟨hs, hparts⟩ := List.forall_mem_cons.1 hparts
    have hclosing : IsShownPath (if parts = [] then [[]] else []) := by
      split
      · exact isShownPath_root
      · exact isShownPath_nil
    have hdropped : IsShownPath (dropSegment segments) := by
      unfold dropSegment
      split
      · exact h
      · exact h.subset (List.dropLast_subset _)
    simp only [addSegments]
    split
    · exact ih hparts (hdropped.append hclosing)
    · split
      · exact ih hparts (h.append hclosing)
      · exact ih hparts (h.append (List.forall_mem_singleton.2 (isSegmentChar_percentEncode hs)))

theorem isShownPath_pathFrom {web : Bool} (h : IsShownPath above) :
    IsShownPath (pathFrom web above cs) := by
  refine isShownPath_addSegments (fun part hpart hslash => ?_) h
  have hsep := sep_of_mem_pieces hpart hslash
  simp [isSlash] at hsep

theorem isShownPath_fromRoot (cs : List Char) : IsShownPath (fromRoot cs) := by
  have hpieces : ∀ part ∈ pieces isAnySlash cs, '/' ∉ part := by
    intro part hpart hslash
    have hsep := sep_of_mem_pieces hpart hslash
    simp [isAnySlash] at hsep
  unfold fromRoot
  split
  · exact isShownPath_root
  · next s rest hcut =>
    rw [hcut, List.forall_mem_cons] at hpieces
    refine isShownPath_addSegments (List.forall_mem_cons.2 ⟨fun hslash => ?_, hpieces.2⟩)
      isShownPath_nil
    unfold withDriveColon at hslash
    split at hslash
    · rcases List.mem_append.1 hslash with hslash | hslash
      · exact hpieces.1 (List.mem_of_mem_take hslash)
      · exact absurd hslash (by decide)
    · exact hpieces.1 hslash

theorem isShownPath_pathAfterHost (web : Bool) (cs : List Char) :
    IsShownPath (pathAfterHost web cs) := by
  unfold pathAfterHost
  split
  · split
    · exact isShownPath_root
    · exact isShownPath_nil
  · split <;> exact isShownPath_pathFrom isShownPath_nil

theorem isShownPath_dropEmptyFront (h : IsShownPath segments) :
    IsShownPath (dropEmptyFront segments) := by
  induction segments using dropEmptyFront.induct with
  | case1 s rest ih =>
    rw [dropEmptyFront]
    exact ih (h.subset (List.subset_cons_self _ _))
  | case2 ss hne =>
    rw [dropEmptyFront]
    · exact h
    · exact hne

end CloudDirector.Url
