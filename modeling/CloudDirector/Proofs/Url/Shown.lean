import CloudDirector.Proofs.Url.Parts

/-!
# URLs that are shown

Every part of a URL that was read is shown with its characters escaped. Reading it relative to
another URL, a slash at the end of its path and further parameters keep it so.
-/
namespace CloudDirector.Url
open Text Encoding

variable {scheme cs main : List Char} {segments : List (List Char)} {base : Option Url} {b u : Url}
  {p : Parts}

/-- Every part of a URL is escaped. -/
structure IsEscaped (u : Url) : Prop where
  scheme : IsScheme u.scheme
  authority : ∀ a, u.authority = some a → a.IsShown
  segments : ∀ ss, u.path = .segments ss → IsShownPath ss
  opaqueText : ∀ cs, u.path = .opaqueText cs → isWeb u.scheme = false ∧ u.authority = none ∧
    cs.head? ≠ some '/' ∧ ∀ c ∈ cs, 0x20 ≤ c.toNat ∧ c ≠ '#' ∧ c ≠ '?'
  query : ∀ q, u.query = some q → ∀ c ∈ q, escapedInQuery (isWeb u.scheme) c = false
  fragment : ∀ f, u.fragment = some f → ∀ c ∈ f, escapedInFragment c = false

/-- The parts of a URL are escaped, and its path has segments. -/
structure IsSegmented (u : Url) : Prop extends IsEscaped u where
  segmented : u.isOpaque = false

/-- The URL is shown: its parts are escaped, and its text does not end in a space. -/
structure IsShown (u : Url) : Prop extends IsEscaped u where
  ends : ∀ cs, u.path = .opaqueText cs → u.query = none → u.fragment = none →
    cs.getLast? ≠ some ' '

theorem isSegmented_mk {authority : Option Authority} (hscheme : IsScheme scheme)
    (hauthority : ∀ a, authority = some a → a.IsShown) (hpath : IsShownPath segments) :
    IsSegmented ⟨scheme, authority, .segments segments, none, none⟩ where
  scheme := hscheme
  authority := hauthority
  segments := by
    rintro _ ⟨⟩
    exact hpath
  opaqueText := nofun
  query := nofun
  fragment := nofun
  segmented := rfl

theorem isSegmented_withAuthority (hscheme : IsScheme scheme)
    (h : withAuthority scheme p cs = .ok u) : u.IsSegmented := by
  obtain ⟨⟨a, rest⟩, ha, h⟩ := exists_of_bind_eq_ok h
  cases h
  refine isSegmented_mk hscheme ?_ (isShownPath_pathAfterHost _ _)
  rintro _ ⟨⟩
  exact isShown_authorityOf ha

/-- A base of which the query may stay and the fragment goes. -/
theorem IsSegmented.withoutFragment (h : b.IsSegmented) (more : Bool) :
    IsSegmented { b with query := if more then none else b.query, fragment := none } where
  scheme := h.scheme
  authority := h.authority
  segments := h.segments
  opaqueText := h.opaqueText
  query := by
    intro q hq
    cases more with
    | true => cases hq
    | false => exact h.query q hq
  fragment := nofun
  segmented := h.segmented

theorem isScheme_file : IsScheme ['f', 'i', 'l', 'e'] :=
  ⟨⟨'f', ['i', 'l', 'e'], rfl, by decide⟩, by decide⟩

theorem isShown_noHost : noHost.IsShown := ⟨by decide, nofun, by decide⟩

def IsFileUrl (u : Url) : Prop :=
  ∃ a segments, u = fileAt a segments ∧ a.IsShown ∧ IsShownPath segments

theorem IsFileUrl.isSegmented (h : u.IsFileUrl) : u.IsSegmented := by
  obtain ⟨a, segments, rfl, ha, hpath⟩ := h
  refine isSegmented_mk isScheme_file ?_ (isShownPath_dropEmptyFront hpath)
  rintro _ ⟨⟩
  exact ha

theorem isFileUrl_noHost (hpath : IsShownPath segments) : (fileAt noHost segments).IsFileUrl :=
  ⟨_, _, rfl, isShown_noHost, hpath⟩

theorem isFileUrl_pathFrom {a : Authority} (ha : a.IsShown) (cs : List Char) :
    (fileAt a (pathFrom true [] cs)).IsFileUrl :=
  ⟨_, _, rfl, ha, isShownPath_pathFrom isShownPath_nil⟩

theorem isShown_onHost {host : List Char} (h : IsHostText host) :
    (fileOnHost.onHost host).IsShown := by
  unfold fileOnHost.onHost
  split
  · exact isShown_noHost
  · exact ⟨isShown_noHost.user, isShown_noHost.password, h⟩

theorem isFileUrl_fileOnHost (h : fileOnHost cs = .ok u) : u.IsFileUrl := by
  have hfound {host path : List Char} (hhost : IsHostText host)
      (h : (if fileOnHost.onHost host = noHost then pure (fileAt noHost (pathFrom true [] path))
        else if isDriveLetter (path.takeWhile (!isAnySlash ·)) then
          pure (fileAt noHost (fromRoot path))
        else pure (fileAt (fileOnHost.onHost host) (pathFrom true [] path))) =
        (.ok u : Except Fault Url)) : u.IsFileUrl := by
    split at h
    · cases h
      exact isFileUrl_pathFrom isShown_noHost _
    · split at h <;> cases h
      · exact isFileUrl_noHost (isShownPath_fromRoot _)
      · exact isFileUrl_pathFrom (isShown_onHost hhost) _
  have hempty : IsHostText [] := List.forall_mem_nil _
  unfold fileOnHost at h
  dsimp only at h
  split at h
  · cases h
    exact isFileUrl_noHost (isShownPath_fromRoot _)
  · cases hafter : cs.dropWhile (!isAnySlash ·) with
    | nil =>
      simp only [hafter] at h
      split at h
      · cases h
        exact ⟨_, _, rfl, isShown_onHost hempty, isShownPath_root⟩
      · obtain ⟨host, hhost, h⟩ := exists_of_bind_eq_ok h
        cases h
        exact ⟨_, _, rfl, isShown_onHost (isHostText_webHost hhost), isShownPath_root⟩
    | cons _ path =>
      simp only [hafter] at h
      split at h
      · exact hfound hempty h
      · obtain ⟨host, hhost, h⟩ := exists_of_bind_eq_ok h
        exact hfound (isHostText_webHost hhost) h

theorem isShown_getD {a : Option Authority} (h : ∀ x, a = some x → x.IsShown) :
    (a.getD noHost).IsShown := by
  cases a with
  | none => exact isShown_noHost
  | some x => exact h x rfl

theorem isFileUrl_fileOnDrive (hbase : ∀ b, base = some b → b.IsEscaped) :
    (fileOnDrive base cs).IsFileUrl := by
  have hroot : (fileAt noHost (pathFrom true [] cs)).IsFileUrl :=
    isFileUrl_pathFrom isShown_noHost cs
  unfold fileOnDrive
  split
  · exact hroot
  · split
    · next s _ _ _ =>
      have h := hbase _ rfl
      split
      · refine isFileUrl_noHost (isShownPath_pathFrom ?_)
        exact List.forall_mem_singleton.2 (h.segments _ rfl s List.mem_cons_self)
      · exact isFileUrl_pathFrom (isShown_getD h.authority) cs
    · exact hroot

/-- The URL of a file is one of its own, or differs from its base in query and fragment only. -/
theorem isFileUrl_fileUrl (hbase : ∀ b, base = some b → b.IsEscaped)
    (h : fileUrl base p main = .ok u) : u.IsFileUrl ∨ ∃ b more, base = some b ∧
      u = { b with query := if more = true then none else b.query, fragment := none } := by
  unfold fileUrl at h
  split at h
  · cases h
    split
    · exact .inr ⟨_, _, rfl, rfl⟩
    · exact .inl (isFileUrl_noHost isShownPath_root)
  · refine .inl ?_
    split at h
    · split at h
      · split at h
        · exact isFileUrl_fileOnHost h
        · cases h
          exact isFileUrl_fileOnDrive hbase
      · cases h
        exact isFileUrl_fileOnDrive hbase
    · split at h
      · next above _ _ =>
        have hb := hbase _ rfl
        have habove : IsShownPath above := hb.segments _ rfl
        split at h <;> cases h
        · exact isFileUrl_noHost (isShownPath_fromRoot _)
        · refine ⟨_, _, rfl, isShown_getD hb.authority, isShownPath_pathFrom ?_⟩
          split
          · exact habove
          · exact habove.subset (List.dropLast_subset _)
      · cases h
        exact isFileUrl_noHost (isShownPath_fromRoot _)

theorem isSegmented_fileUrl (hbase : ∀ b, base = some b → b.IsSegmented)
    (h : fileUrl base p main = .ok u) : u.IsSegmented := by
  obtain hfile | ⟨b, more, hb, rfl⟩ := isFileUrl_fileUrl (fun b hb => (hbase b hb).toIsEscaped) h
  · exact hfile.isSegmented
  · exact (hbase b hb).withoutFragment more

theorem isSegmented_relativeTo (hb : b.IsSegmented) (h : relativeTo b p main = .ok u) :
    u.IsSegmented := by
  have hsegments {ss : List (List Char)} (hss : IsShownPath ss)
      (h : relativeTo.withSegments b ss = .ok u) : u.IsSegmented := by
    cases h
    exact isSegmented_mk hb.scheme hb.authority hss
  unfold relativeTo at h
  dsimp only at h
  split at h
  · cases h
    exact hb.withoutFragment _
  · split at h
    · split at h
      · split at h
        · exact isSegmented_withAuthority hb.scheme h
        · split at h
          · exact isSegmented_withAuthority hb.scheme h
          · exact hsegments (isShownPath_pathFrom isShownPath_nil) h
      · exact hsegments (isShownPath_pathFrom isShownPath_nil) h
    · refine hsegments (isShownPath_pathFrom ?_) h
      split
      · next ss hss => exact (hb.segments ss hss).subset (List.dropLast_subset _)
      · exact isShownPath_nil

theorem IsEscaped.isSegmented_of_web (h : b.IsEscaped) (hweb : isWeb b.scheme = true) :
    b.IsSegmented := by
  refine ⟨h, ?_⟩
  unfold isOpaque
  split
  · next cs hcs =>
    rw [(h.opaqueText cs hcs).1] at hweb
    cases hweb
  · rfl

theorem isWeb_of_isFile (h : isFile scheme = true) : isWeb scheme = true := by
  simp [isWeb, h]

/-- What follows a scheme of its own kind is shown as it is, but for what is escaped everywhere. -/
theorem isEscaped_opaqueText (hscheme : IsScheme scheme) (hweb : isWeb scheme = false)
    (hchars : ∀ c ∈ cs, c ≠ '#' ∧ c ≠ '?') (hslash : ∀ after, cs ≠ '/' :: after) :
    IsEscaped ⟨scheme, none, .opaqueText (percentEncode escapedAlways cs), none, none⟩ where
  scheme := hscheme
  authority := nofun
  segments := nofun
  opaqueText := by
    rintro _ ⟨⟩
    refine ⟨hweb, rfl, ?_, fun c hc => ?_⟩
    · cases cs with
      | nil => exact nofun
      | cons c cs =>
        have hne : c ≠ '/' := fun h => hslash cs (h ▸ rfl)
        have hpercent : (percentChar c).head? ≠ some '/' := fun hhead =>
          absurd (isFormChar_of_mem_percentChar (List.mem_of_head? hhead)) (by decide)
        unfold percentEncode
        rw [List.flatMap_cons]
        split
        · rw [List.head?_append_of_ne_nil _ (percentChar_ne_nil c)]
          exact hpercent
        · simpa using hne
    · rcases mem_percentEncode hc with ⟨hmem, hkept⟩ | hcode
      · exact ⟨toNat_of_escapedAlways hkept, hchars c hmem⟩
      · have hmain := hcode.isMainChar
        simp only [isMainChar, Bool.and_eq_true, decide_eq_true_eq, bne_iff_ne] at hmain
        exact ⟨by omega, hmain.1.2, hmain.2⟩
  query := nofun
  fragment := nofun

/-- The main part of a text is read as a URL whose parts are escaped. An opaque path is that of the
base, if the text is a fragment, or what follows the scheme. -/
theorem isEscaped_mainUrl (hbase : ∀ b, base = some b → b.IsEscaped)
    (hmain : ∀ c ∈ p.main, c ≠ '#' ∧ c ≠ '?') (h : mainUrl base p = .ok u) :
    u.IsEscaped ∧ (u.isOpaque = false ∨ p.fragment.isSome = true ∨
      ∃ name rest, p.main = name ++ ':' :: rest ∧
        u.path = .opaqueText (percentEncode escapedAlways rest)) := by
  have hsegmented (h : u.IsSegmented) : u.IsEscaped ∧ (u.isOpaque = false ∨
      p.fragment.isSome = true ∨ ∃ name rest, p.main = name ++ ':' :: rest ∧
        u.path = .opaqueText (percentEncode escapedAlways rest)) :=
    ⟨h.toIsEscaped, .inl h.segmented⟩
  unfold mainUrl at h
  split at h
  · next scheme rest hread =>
    obtain ⟨hscheme, name, hname⟩ := isScheme_of_schemeOf hread
    split at h
    · refine hsegmented (isSegmented_fileUrl (fun b hb => ?_) h)
      obtain ⟨hb, hfile⟩ := Option.filter_eq_some_iff.1 hb
      exact (hbase b hb).isSegmented_of_web (isWeb_of_isFile hfile)
    · split at h
      · next hweb =>
        dsimp only at h
        split at h
        · next b =>
          split at h
          · next hsame =>
            exact hsegmented
              (isSegmented_relativeTo ((hbase b rfl).isSegmented_of_web (hsame.2 ▸ hweb)) h)
          · exact hsegmented (isSegmented_withAuthority hscheme h)
        · exact hsegmented (isSegmented_withAuthority hscheme h)
      · next hweb =>
        split at h
        · exact hsegmented (isSegmented_withAuthority hscheme h)
        · cases h
          exact hsegmented (isSegmented_mk hscheme nofun (isShownPath_pathFrom isShownPath_nil))
        · next hslashes hslash =>
          cases h
          have hrest : ∀ c ∈ rest, c ≠ '#' ∧ c ≠ '?' := by
            intro c hc
            refine hmain c ?_
            rw [hname]
            exact List.mem_append_right _ (List.mem_cons_of_mem _ hc)
          exact ⟨isEscaped_opaqueText hscheme (by simpa using hweb) hrest hslash,
            .inr (.inr ⟨name, rest, hname, rfl⟩)⟩
  · split at h
    · cases h
    · next b =>
      have hb := hbase b rfl
      split at h
      · next hfragment =>
        cases h
        exact ⟨⟨hb.scheme, hb.authority, hb.segments, hb.opaqueText, hb.query, nofun⟩,
          .inr (.inl hfragment.2.2)⟩
      · split at h
        · cases h
        · next hopaqueText =>
          have hb : b.IsSegmented := ⟨hb, by simpa using hopaqueText⟩
          split at h
          · exact hsegmented (isSegmented_fileUrl (by rintro _ ⟨⟩; exact hb) h)
          · exact hsegmented (isSegmented_relativeTo hb h)

/-- What precedes a sign, and what follows it if it is there. -/
def cutOff (sign : Char) (cs : List Char) : List Char × Option (List Char) :=
  match cutFirst (· == sign) cs with
  | some (before, after) => (before, some after)
  | none => (cs, none)

/-- A text without surrounding spaces, tabs and line ends. -/
def cleaned (text : List Char) : List Char :=
  (trimBoth (·.toNat ≤ 0x20) text).filter fun c => c.toNat ≠ 9 ∧ c.toNat ≠ 10 ∧ c.toNat ≠ 13

theorem partsOf_eq (text : List Char) : partsOf text =
    ⟨(cutOff '?' (cutOff '#' (cleaned text)).1).1, (cutOff '?' (cutOff '#' (cleaned text)).1).2,
      (cutOff '#' (cleaned text)).2⟩ := rfl

theorem cutOff_front (sign : Char) (cs : List Char) :
    (∀ c ∈ (cutOff sign cs).1, c ≠ sign ∧ c ∈ cs) ∧
      ((cutOff sign cs).2 = none → (cutOff sign cs).1 = cs) := by
  unfold cutOff
  split
  · next before after hcut =>
    obtain ⟨d, rfl, -, hbefore⟩ := cutFirst_eq_some.1 hcut
    exact ⟨fun c hc => ⟨by simpa using hbefore c hc, List.mem_append_left _ hc⟩, nofun⟩
  · next hcut =>
    exact ⟨fun c hc => ⟨by simpa using cutFirst_eq_none.1 hcut c hc, hc⟩, fun _ => rfl⟩

theorem getLast?_cleaned (text : List Char) : (cleaned text).getLast? ≠ some ' ' := by
  unfold cleaned
  rcases List.eq_nil_or_concat (trimBoth (·.toNat ≤ 0x20) text) with hnil | ⟨init, c, hconcat⟩
  · rw [hnil]
    exact nofun
  · rw [hconcat, List.concat_eq_append]
    have hlast : (trimBoth (·.toNat ≤ 0x20) text).getLast? = some c := by simp [hconcat]
    have hgreater := getLast?_trimBoth hlast
    rw [decide_eq_false_iff_not] at hgreater
    have hkept : c.toNat ≠ 9 ∧ c.toNat ≠ 10 ∧ c.toNat ≠ 13 := by omega
    rw [List.filter_append, List.filter_cons_of_pos (by simpa using hkept), List.filter_nil,
      List.getLast?_concat]
    rintro ⟨⟩
    exact hgreater (by decide)

/-- What a text is cut into: neither sign is left in front, and no space behind. -/
theorem partsOf_main (text : List Char) :
    (∀ c ∈ (partsOf text).main, c ≠ '#' ∧ c ≠ '?') ∧
      ((partsOf text).query = none → (partsOf text).fragment = none →
        (partsOf text).main.getLast? ≠ some ' ') := by
  rw [partsOf_eq]
  obtain ⟨hfront, hwhole⟩ := cutOff_front '#' (cleaned text)
  obtain ⟨hmain, hall⟩ := cutOff_front '?' (cutOff '#' (cleaned text)).1
  refine ⟨fun c hc => ⟨(hfront c (hmain c hc).2).1, (hmain c hc).1⟩, fun hquery hfragment => ?_⟩
  dsimp only at hquery hfragment ⊢
  rw [hall hquery, hwhole hfragment]
  exact getLast?_cleaned text

theorem getLast?_percentEncode {escaped : Char → Bool}
    (h : (percentEncode escaped cs).getLast? = some ' ') : cs.getLast? = some ' ' := by
  rcases List.eq_nil_or_concat cs with rfl | ⟨init, c, rfl⟩
  · cases h
  · rw [List.concat_eq_append] at h ⊢
    unfold percentEncode at h
    rw [List.flatMap_append, List.flatMap_singleton] at h
    split at h
    · rw [List.getLast?_append_of_ne_nil _ (percentChar_ne_nil c)] at h
      exact absurd (isFormChar_of_mem_percentChar (List.mem_of_getLast? h)) (by decide)
    · rw [List.getLast?_concat] at h ⊢
      exact h

theorem isShown_parse {text : String} (hbase : ∀ b, base = some b → b.IsEscaped)
    (h : parse base text = .ok u) : u.IsShown := by
  obtain ⟨hmain, hends⟩ := partsOf_main text.toList
  obtain ⟨v, hv, h⟩ := exists_of_bind_eq_ok h
  obtain ⟨hescaped, hopaqueText⟩ := isEscaped_mainUrl hbase hmain hv
  cases h
  refine ⟨⟨hescaped.scheme, hescaped.authority, hescaped.segments, hescaped.opaqueText, ?_, ?_⟩, ?_⟩
  · intro q hq
    dsimp only at hq
    split at hq
    · cases hq
      exact escapedInQuery_percentEncode
    · exact hescaped.query q hq
  · intro f hf
    obtain ⟨_, -, rfl⟩ := Option.map_eq_some_iff.1 hf
    exact escapedInFragment_percentEncode
  · intro cs hcs hquery hfragment hlast
    dsimp only at hcs hquery hfragment
    rw [Option.map_eq_none_iff] at hfragment
    rcases hopaqueText with hsegmented | hsome | ⟨name, rest, hname, hpath⟩
    · simp [isOpaque, hcs] at hsegmented
    · rw [hfragment] at hsome
      cases hsome
    · obtain rfl : percentEncode escapedAlways rest = cs := by
        rw [hpath] at hcs
        exact Path.opaqueText.inj hcs
      have hnone : (partsOf text.toList).query = none := by
        split at hquery
        · cases hquery
        · assumption
      refine hends hnone hfragment ?_
      have hrest := getLast?_percentEncode hlast
      have hne : rest ≠ [] := by
        rintro rfl
        cases hrest
      rw [hname, List.getLast?_append, List.getLast?_cons, hrest]
      rfl

theorem isShownPath_withSlash {first : List Char} {rest : List (List Char)}
    (h : IsShownPath (first :: rest)) (drive : Bool) :
    IsShownPath ((if drive then withDriveColon first else first) :: rest ++ [[]]) := by
  obtain ⟨hfirst, hrest⟩ := List.forall_mem_cons.1 h
  have hcolon : ∀ c ∈ withDriveColon first, isSegmentChar c = true := by
    unfold withDriveColon
    split
    · exact List.forall_mem_append.2 ⟨fun c hc => hfirst c (List.mem_of_mem_take hc), by decide⟩
    · exact hfirst
  refine IsShownPath.append (List.forall_mem_cons.2 ⟨?_, hrest⟩) isShownPath_root
  split
  · exact hcolon
  · exact hfirst

/-- Another path of the same kind is shown like the first. -/
theorem IsShown.with_path (h : u.IsShown) {path : Path}
    (hsegments : ∀ ss, path = .segments ss → IsShownPath ss)
    (hopaqueText : ∀ cs, path = .opaqueText cs → (∃ old, u.path = .opaqueText old) ∧
      cs.head? ≠ some '/' ∧ (∀ c ∈ cs, 0x20 ≤ c.toNat ∧ c ≠ '#' ∧ c ≠ '?') ∧
      cs.getLast? ≠ some ' ') : IsShown { u with path } where
  scheme := h.scheme
  authority := h.authority
  segments := hsegments
  opaqueText := by
    intro cs hcs
    obtain ⟨⟨old, hold⟩, hhead, hchars, -⟩ := hopaqueText cs hcs
    obtain ⟨hweb, hauthority, -⟩ := h.opaqueText old hold
    exact ⟨hweb, hauthority, hhead, hchars⟩
  query := h.query
  fragment := h.fragment
  ends := fun cs hcs _ _ => (hopaqueText cs hcs).2.2.2

theorem IsShown.withSlash (h : u.IsShown) : u.withSlash.IsShown := by
  unfold Url.withSlash
  split
  · exact h
  · split
    · next hpath =>
      refine h.with_path nofun ?_
      rintro _ ⟨⟩
      exact ⟨⟨_, hpath⟩, by decide, by decide, by decide⟩
    · next cs hne hpath =>
      obtain ⟨-, -, hhead, hchars⟩ := h.opaqueText cs hpath
      refine h.with_path nofun ?_
      rintro _ ⟨⟩
      refine ⟨⟨_, hpath⟩, ?_, List.forall_mem_append.2 ⟨hchars, by decide⟩, by simp⟩
      rw [List.head?_append_of_ne_nil _ hne]
      exact hhead
    · refine h.with_path ?_ nofun
      rintro _ ⟨⟩
      exact isShownPath_root
    · next first rest hpath =>
      refine h.with_path ?_ nofun
      rintro _ ⟨⟩
      exact isShownPath_withSlash (h.segments _ hpath) _

/-- A pair at the end of a query leaves nothing in it to be escaped. -/
theorem escapedInQuery_appendFormPair {web : Bool} (h : ∀ c ∈ cs, escapedInQuery web c = false)
    (pair : String × String) : ∀ c ∈ appendFormPair cs pair, escapedInQuery web c = false := by
  have hmark : ∀ mark ∈ ['&', '=', '+', '%'], escapedInQuery web mark = false := by
    cases web <;> decide
  have hform (text : String) : ∀ c ∈ formText text.toList, escapedInQuery web c = false := by
    intro c hc
    rcases isFormChar_of_mem_formText hc with hsafe | rfl | rfl
    · exact IsCodeChar.escapedInQuery (.inl hsafe) _
    · exact hmark _ (by decide)
    · exact hmark _ (by decide)
  unfold appendFormPair formPair
  refine List.forall_mem_append.2 ⟨?_, List.forall_mem_append.2
    ⟨hform _, List.forall_mem_cons.2 ⟨hmark _ (by decide), hform _⟩⟩⟩
  split
  · exact List.forall_mem_nil _
  · exact List.forall_mem_append.2 ⟨h, List.forall_mem_singleton.2 (hmark _ (by decide))⟩

theorem IsShown.appendPair (h : u.IsShown) (pair : String × String) :
    (u.appendPair pair).IsShown where
  scheme := h.scheme
  authority := h.authority
  segments := h.segments
  opaqueText := h.opaqueText
  query := by
    rintro _ ⟨⟩
    refine escapedInQuery_appendFormPair ?_ pair
    cases hquery : u.query with
    | none => exact List.forall_mem_nil _
    | some q => exact h.query q hquery
  fragment := h.fragment
  ends := nofun

/-- How URLs come about: they are read from texts, also relative to others, and get a slash at the
end of their paths and pairs at the end of their queries. -/
inductive IsRead : Url → Prop
  | text {text : String} {u : Url} (read : ofText text = .ok u) : IsRead u
  | joined {base u : Url} {text : String} (first : IsRead base) (read : base.join text = .ok u) :
    IsRead u
  | slash {u : Url} (first : IsRead u) : IsRead u.withSlash
  | pair {u : Url} {pair : String × String} (first : IsRead u) : IsRead (u.appendPair pair)

theorem IsRead.isShown (h : u.IsRead) : u.IsShown := by
  induction h with
  | text read => exact isShown_parse (by rintro _ ⟨⟩) read
  | joined first read ih =>
    refine isShown_parse ?_ read
    rintro _ ⟨⟩
    exact ih.toIsEscaped
  | slash first ih => exact ih.withSlash
  | pair first ih => exact ih.appendPair _

end CloudDirector.Url
