import CloudDirector.Proofs.Url.Shown

/-!
# URLs that are read again

The text of a URL that was read is cut where the URL was put together. So it is read again with
its query and its fragment as they are, whatever becomes of the rest, and adding parameters to it
changes nothing but its query.
-/
namespace CloudDirector.Url
open Text Encoding

variable {u v : Url} {cs rest : List Char}

/-- What stands before query and fragment. -/
def main (u : Url) : List Char := u.front ++ u.path.chars

theorem cutOff_append {sign : Char} (back : Option (List Char)) (h : sign ∉ cs) :
    cutOff sign (cs ++ back.elim [] (sign :: ·)) = (cs, back) := by
  unfold cutOff
  cases back with
  | none =>
    rw [Option.elim_none, List.append_nil, cutFirst_of_forall (beq_eq_false_of_notMem h)]
  | some back =>
    rw [Option.elim_some, cutFirst_append_cons (beq_eq_false_of_notMem h) (by simp)]

theorem IsEscaped.front (h : u.IsEscaped) : ∀ c ∈ u.front, isMainChar c = true := by
  unfold Url.front
  refine List.forall_mem_append.2
    ⟨fun c hc => isMainChar_of_isSchemeChar (h.scheme.chars c hc).1,
      List.forall_mem_cons.2 ⟨by decide, ?_⟩⟩
  split
  · next a ha => exact List.forall_mem_cons.2 ⟨by decide, List.forall_mem_cons.2
      ⟨by decide, (h.authority a ha).chars.1⟩⟩
  · split <;> decide

theorem IsEscaped.main (h : u.IsEscaped) :
    ∀ c ∈ u.main, 0x20 ≤ c.toNat ∧ c ≠ '#' ∧ c ≠ '?' := by
  have hweak {c : Char} (hc : isMainChar c = true) : 0x20 ≤ c.toNat ∧ c ≠ '#' ∧ c ≠ '?' := by
    simp only [isMainChar, Bool.and_eq_true, decide_eq_true_eq, bne_iff_ne] at hc
    exact ⟨by omega, hc.1.2, hc.2⟩
  refine List.forall_mem_append.2 ⟨fun c hc => hweak (h.front c hc), ?_⟩
  cases hpath : u.path with
  | opaqueText cs => exact (h.opaqueText cs hpath).2.2.2
  | segments ss => exact fun c hc => hweak ((h.segments ss hpath).chars c hc)

theorem main_eq (u : Url) : ∃ rest, u.main = u.scheme ++ ':' :: rest :=
  ⟨_, by unfold Url.main Url.front; rw [List.append_assoc, List.cons_append]⟩

theorem chars_eq (u : Url) : u.chars =
    (u.main ++ u.query.elim [] ('?' :: ·)) ++ u.fragment.elim [] ('#' :: ·) := by
  unfold chars back main
  rw [List.append_assoc, List.append_assoc, List.append_assoc]

theorem IsEscaped.behind (h : u.IsEscaped) :
    (∀ c ∈ u.query.elim [] ('?' :: ·), 0x20 < c.toNat ∧ c ≠ '#') ∧
      ∀ c ∈ u.fragment.elim [] ('#' :: ·), 0x20 < c.toNat := by
  constructor
  · cases hquery : u.query with
    | none => exact List.forall_mem_nil _
    | some q =>
      refine List.forall_mem_cons.2 ⟨by decide, fun c hc => ?_⟩
      exact toNat_of_escapedInQuery (h.query q hquery c hc)
  · cases hfragment : u.fragment with
    | none => exact List.forall_mem_nil _
    | some f =>
      refine List.forall_mem_cons.2 ⟨by decide, fun c hc => ?_⟩
      exact toNat_of_escapedInFragment (h.fragment f hfragment c hc)

theorem toNat_of_isMainChar {c : Char} (h : isMainChar c = true) : 0x20 < c.toNat := by
  simp only [isMainChar, Bool.and_eq_true, decide_eq_true_eq] at h
  exact h.1.1

/-- What stands before query and fragment ends in no space, unless one of them follows. -/
theorem IsShown.getLast?_main (h : u.IsShown) (hquery : u.query = none)
    (hfragment : u.fragment = none) : ∀ c, u.main.getLast? = some c → 0x20 < c.toNat := by
  intro c hc
  have hmem := List.mem_of_getLast? hc
  unfold Url.main at hc hmem
  rcases List.mem_append.1 hmem with hfront | hpath
  · exact toNat_of_isMainChar (h.front c hfront)
  · cases hp : u.path with
    | segments ss =>
      rw [hp] at hpath
      exact toNat_of_isMainChar ((h.segments ss hp).chars c hpath)
    | opaqueText cs =>
      rw [hp] at hpath hc
      have hne : (Path.opaqueText cs).chars ≠ [] := List.ne_nil_of_mem hpath
      rw [List.getLast?_append_of_ne_nil _ hne] at hc
      have hspace : c ≠ ' ' := by
        rintro rfl
        exact h.ends cs hp hquery hfragment hc
      have hge := ((h.opaqueText cs hp).2.2.2 c hpath).1
      have hne := ne_space_iff.2 hspace
      omega

theorem IsEscaped.head?_chars (h : u.IsEscaped) :
    ∀ c, u.chars.head? = some c → 0x20 < c.toNat := by
  obtain ⟨first, rest, hscheme, halpha⟩ := h.scheme.first
  obtain ⟨tail, hmain⟩ := main_eq u
  intro c hc
  rw [chars_eq, hmain, hscheme] at hc
  obtain rfl : first = c := by simpa using hc
  have hletter : first.isAlphanum = true := by simp [Char.isAlphanum, halpha]
  have hrange := toNat_of_isAlphanum hletter
  omega

theorem IsShown.getLast?_chars (h : u.IsShown) :
    ∀ c, u.chars.getLast? = some c → 0x20 < c.toNat := by
  intro c hc
  obtain ⟨hquery, hfragment⟩ := h.behind
  rw [chars_eq] at hc
  cases hf : u.fragment with
  | none =>
    rw [hf, Option.elim_none, List.append_nil] at hc
    cases hq : u.query with
    | none =>
      rw [hq, Option.elim_none, List.append_nil] at hc
      exact h.getLast?_main hq hf c hc
    | some q =>
      rw [List.getLast?_append_of_ne_nil _ (by simp [hq])] at hc
      exact (hquery c (List.mem_of_getLast? hc)).1
  | some f =>
    rw [List.getLast?_append_of_ne_nil _ (by simp [hf])] at hc
    exact hfragment c (List.mem_of_getLast? hc)

/-- The text of a URL that is shown has nothing that is trimmed off. -/
theorem IsShown.cleaned_chars (h : u.IsShown) : cleaned u.chars = u.chars := by
  obtain ⟨hquery, hfragment⟩ := h.behind
  have hkept : ∀ c ∈ u.chars, 0x20 ≤ c.toNat := by
    rw [chars_eq]
    exact List.forall_mem_append.2 ⟨List.forall_mem_append.2
      ⟨fun c hc => (h.main c hc).1, fun c hc => (hquery c hc).1.le⟩,
      fun c hc => (hfragment c hc).le⟩
  have hnot {c : Char} (hc : 0x20 < c.toNat) : decide (c.toNat ≤ 0x20) = false :=
    decide_eq_false (Nat.not_le.2 hc)
  unfold cleaned
  rw [trimBoth_of_ends (fun c hc => hnot (h.head?_chars c hc))
    (fun c hc => hnot (h.getLast?_chars c hc)), List.filter_eq_self]
  intro c hc
  have hge := hkept c hc
  have hne : c.toNat ≠ 9 ∧ c.toNat ≠ 10 ∧ c.toNat ≠ 13 := by omega
  simpa using hne

theorem IsShown.partsOf (h : u.IsShown) : partsOf u.chars = ⟨u.main, u.query, u.fragment⟩ := by
  have hmain : '?' ∉ u.main := fun hmem => (h.main _ hmem).2.2 rfl
  have hquery : '#' ∉ u.main ++ u.query.elim [] ('?' :: ·) := by
    intro hmem
    rcases List.mem_append.1 hmem with hmem | hmem
    · exact (h.main _ hmem).2.1 rfl
    · exact (h.behind.1 _ hmem).2 rfl
  rw [partsOf_eq, h.cleaned_chars, chars_eq, cutOff_append _ hquery]
  dsimp only
  rw [cutOff_append _ hmain]

theorem cutLast_eq_some {sep : Char → Bool} {before after : List Char}
    (h : cutLast sep cs = some (before, after)) : ∃ c, cs = before ++ c :: after ∧ sep c = true := by
  obtain ⟨⟨behind, front⟩, hcut, hparts⟩ := Option.map_eq_some_iff.1 h
  obtain ⟨c, hcs, hc, -⟩ := cutFirst_eq_some.1 hcut
  cases hparts
  refine ⟨c, ?_, hc⟩
  rw [← List.reverse_inj, hcs]
  simp

theorem cutUser_ne_nil {web : Bool} (h : cs.head? ≠ some '@') : (cutUser web cs).1 ≠ some [] := by
  unfold cutUser
  split
  · exact nofun
  · next before after hcut =>
    rintro ⟨⟩
    obtain ⟨c, hhere, hc⟩ := cutLast_eq_some hcut
    obtain rfl : c = '@' := by simpa using hc
    refine h ?_
    have hsplit := List.takeWhile_append_dropWhile (p := (!isSlash web ·)) (l := cs)
    rw [hhere] at hsplit
    rw [← hsplit]
    rfl

theorem namesNobody_more {web : Bool} (more more' : Bool) {user : Option (List Char)}
    (h : user ≠ some [] ∨ rest ≠ []) :
    namesNobody web more user rest = namesNobody web more' user rest := by
  unfold namesNobody
  cases rest with
  | nil =>
    have hnot : (user == some []) = false := by simpa using h
    rw [hnot, Bool.false_and, Bool.false_and]
  | cons c rest => rfl

theorem hostOf_nil {scheme : List Char} (h : isWeb scheme = true) :
    hostOf scheme [] = .error .emptyHost := by
  simp [hostOf, cutHost, h]

/-- Whether a query or fragment follows counts only for an authority that begins with an at sign,
and then not for the schemes of the web, which need a host. -/
theorem authorityOf_more {scheme : List Char} (more more' : Bool)
    (h : isWeb scheme = true ∨ cs.head? ≠ some '@') :
    authorityOf scheme more cs = authorityOf scheme more' cs := by
  unfold authorityOf
  dsimp only
  by_cases hsame : (cutUser (isWeb scheme) cs).1 ≠ some [] ∨ (cutUser (isWeb scheme) cs).2 ≠ []
  · rw [namesNobody_more more more' hsame]
  · rw [not_or, not_not, not_not] at hsame
    obtain ⟨huser, hrest⟩ := hsame
    have hweb : isWeb scheme = true := h.resolve_right fun hhead => cutUser_ne_nil hhead huser
    rw [hrest, hostOf_nil hweb]
    split <;> split <;> rfl

/-- Where two slashes follow the scheme, an authority does. -/
theorem IsEscaped.no_at (h : u.IsEscaped) {after : List Char}
    (hmain : u.main = u.scheme ++ ':' :: '/' :: '/' :: after) : after.head? ≠ some '@' := by
  unfold Url.main Url.front at hmain
  rw [List.append_assoc, List.cons_append] at hmain
  have htail := List.tail_eq_of_cons_eq (List.append_cancel_left hmain)
  cases hauthority : u.authority with
  | some a =>
    rw [hauthority] at htail
    simp only [List.cons_append, List.cons.injEq, true_and] at htail
    subst htail
    have hhead := (h.authority a hauthority).chars.2
    rw [List.head?_append]
    cases ha : a.chars.head? with
    | some c => simpa [ha] using hhead
    | none =>
      cases hpath : u.path with
      | opaqueText cs =>
        rw [(h.opaqueText cs hpath).2.1] at hauthority
        cases hauthority
      | segments ss => cases ss <;> simp [Path.chars]
  | none =>
    rw [hauthority] at htail
    cases hpath : u.path with
    | opaqueText cs =>
      have hhead := (h.opaqueText cs hpath).2.2.1
      rw [hpath] at htail
      simp [Path.chars] at htail
      simp [htail] at hhead
    | segments ss =>
      have hshown := h.segments ss hpath
      rw [hpath] at htail
      match ss with
      | [] => simp [Path.chars] at htail
      | [[]] => simp [Path.chars] at htail
      | [] :: _ :: _ => simp [Path.chars] at htail
      | (c :: s) :: rest =>
        have hc := hshown _ List.mem_cons_self c List.mem_cons_self
        obtain ⟨rfl, -⟩ : c = '/' ∧ _ := by simpa [Path.chars] using htail
        cases hc

theorem withAuthority_more {scheme : List Char} {p p' : Parts}
    (h : isWeb scheme = true ∨ cs.head? ≠ some '@') :
    withAuthority scheme p cs = withAuthority scheme p' cs := by
  unfold withAuthority
  rw [authorityOf_more _ (p'.query.isSome || p'.fragment.isSome) h]

/-- What precedes query and fragment is read alike, whatever follows it. -/
theorem IsEscaped.mainUrl_eq (h : u.IsEscaped) (p : Parts) (hp : p.main = u.main) :
    mainUrl none p = mainUrl none ⟨u.main, none, none⟩ := by
  obtain ⟨tail, hmain⟩ := main_eq u
  have hread : schemeOf u.main = some (u.scheme, tail) := by
    rw [hmain]
    exact h.scheme.schemeOf tail
  unfold mainUrl
  rw [hp, hread]
  dsimp only
  split
  · cases tail <;> rfl
  · split
    · next hweb => exact withAuthority_more (.inl hweb)
    · split
      · next after => exact withAuthority_more (.inr (h.no_at hmain))
      · rfl
      · rfl

theorem of_withAuthority {scheme : List Char} {p : Parts} (h : withAuthority scheme p cs = .ok v) :
    v.scheme = scheme ∧ v.query = none := by
  obtain ⟨_, -, h⟩ := exists_of_bind_eq_ok h
  cases h
  exact ⟨rfl, rfl⟩

/-- What is read on its own has the scheme of its text, and no query yet. -/
theorem of_mainUrl {p : Parts} {scheme : List Char} (hread : schemeOf p.main = some (scheme, rest))
    (h : mainUrl none p = .ok v) : v.scheme = scheme ∧ v.query = none := by
  unfold mainUrl at h
  rw [hread] at h
  dsimp only at h
  split at h
  · next hfile =>
    rw [Option.filter_none] at h
    obtain ⟨a, segments, rfl, -, -⟩ | ⟨b, more, hb, -⟩ :=
      isFileUrl_fileUrl (by rintro _ ⟨⟩) h
    · have hscheme : scheme = ['f', 'i', 'l', 'e'] := by simpa [isFile] using hfile
      exact ⟨hscheme.symm, rfl⟩
    · cases hb
  · split at h
    · exact of_withAuthority h
    · split at h
      · exact of_withAuthority h
      · cases h
        exact ⟨rfl, rfl⟩
      · cases h
        exact ⟨rfl, rfl⟩

/-- The text of a URL that is shown is read with query and fragment as they are, and whatever
precedes them is read as if it stood alone. -/
theorem IsShown.ofText_text (h : u.IsShown) : ofText u.text =
    (mainUrl none ⟨u.main, none, none⟩).map fun v =>
      { v with query := u.query, fragment := u.fragment } := by
  obtain ⟨tail, hmain⟩ := main_eq u
  have hread : schemeOf u.main = some (u.scheme, tail) := by
    rw [hmain]
    exact h.scheme.schemeOf tail
  have hfragment : u.fragment.map (percentEncode escapedInFragment) = u.fragment := by
    cases hf : u.fragment with
    | none => rfl
    | some f => exact congrArg some (percentEncode_of_forall (h.fragment f hf))
  unfold ofText parse
  rw [Url.text, String.toList_ofList, h.partsOf]
  dsimp only
  rw [h.mainUrl_eq ⟨u.main, u.query, u.fragment⟩ rfl, hfragment]
  cases hv : mainUrl none ⟨u.main, none, none⟩ with
  | error e => rfl
  | ok v =>
    obtain ⟨hscheme, hnone⟩ := of_mainUrl hread hv
    cases hquery : u.query with
    | none =>
      exact congrArg (fun query => Except.ok { v with query, fragment := u.fragment }) hnone
    | some q =>
      have hsame : percentEncode (escapedInQuery (isWeb v.scheme)) q = q := by
        rw [hscheme]
        exact percentEncode_of_forall (h.query q hquery)
      exact congrArg (fun q => Except.ok { v with query := some q, fragment := u.fragment }) hsame

variable {pairs : List (String × String)}

theorem queryPairs_eq (u : Url) : u.queryPairs = unformPairs (u.query.getD []) := by
  unfold queryPairs
  cases u.query <;> rfl

theorem queryPairs_appendPair (u : Url) (pair : String × String) :
    (u.appendPair pair).queryPairs = u.queryPairs ++ [pair] := by
  rw [queryPairs_eq u]
  exact unformPairs_appendFormPair _ pair

theorem queryPairs_appendPairs (u : Url) (pairs : List (String × String)) :
    (u.appendPairs pairs).queryPairs = u.queryPairs ++ pairs := by
  induction pairs generalizing u with
  | nil => rw [appendPairs_nil, List.append_nil]
  | cons pair pairs ih =>
    calc (u.appendPairs (pair :: pairs)).queryPairs
        = ((u.appendPair pair).appendPairs pairs).queryPairs := rfl
      _ = u.queryPairs ++ (pair :: pairs) := by
          rw [ih, queryPairs_appendPair, List.append_assoc, List.singleton_append]

def extended (query : Option (List Char)) (pairs : List (String × String)) : Option (List Char) :=
  pairs.foldl (fun query pair => some (appendFormPair (query.getD []) pair)) query

/-- Pairs change the query, and the query alone. -/
theorem appendPairs_eq (u : Url) (pairs : List (String × String)) :
    u.appendPairs pairs = { u with query := extended u.query pairs } := by
  induction pairs generalizing u with
  | nil => rfl
  | cons pair pairs ih => exact ih (u.appendPair pair)

theorem IsShown.appendPairs (h : u.IsShown) : (u.appendPairs pairs).IsShown := by
  induction pairs generalizing u with
  | nil => exact h
  | cons pair pairs ih => exact ih (h.appendPair pair)

/-- A URL is read from its text with the pairs that its query stands for. -/
theorem IsShown.queryPairs_of_ofText_text (h : u.IsShown) (hread : ofText u.text = .ok v) :
    v.queryPairs = u.queryPairs := by
  rw [h.ofText_text] at hread
  cases hmain : mainUrl none ⟨u.main, none, none⟩ with
  | error e =>
    rw [hmain] at hread
    cases hread
  | ok w =>
    rw [hmain] at hread
    cases hread
    rfl

/-- It makes no difference whether pairs are added before a URL is read again or afterwards. -/
theorem IsShown.ofText_appendPairs (h : u.IsShown) :
    ofText (u.appendPairs pairs).text = (ofText u.text).map (·.appendPairs pairs) := by
  have hmain : (u.appendPairs pairs).main = u.main := by
    rw [appendPairs_eq]
    rfl
  rw [h.appendPairs.ofText_text, h.ofText_text, hmain]
  cases mainUrl none ⟨u.main, none, none⟩ with
  | error e => rfl
  | ok v =>
    simp only [Except.map, appendPairs_eq]

end CloudDirector.Url
