import CloudDirector.Link.Header
import CloudDirector.Proofs.Text.Cutting
import Mathlib.Data.List.Induction

/-!
# Entries of link headers

An entry is written as a target between `<` and `>`, followed by quoted parameters, with white space
around their parts. It is read as the link that its parameters describe, also when commas follow it.
A header of such entries gives their links, and what a `<` opens but no `>` closes gives none.
-/
namespace CloudDirector.Link
open Text

/-- White space, or nothing. -/
def IsGap (cs : List Char) : Prop := ∀ c ∈ cs, isBlank c = true

/-- A parameter whose key and value hold none of the characters that mark its parts. -/
structure IsPlain (parameter : String × String) : Prop where
  key : ∀ c ∈ parameter.1.toList, isBlank c = false ∧ c ≠ '<' ∧ c ≠ ';' ∧ c ≠ '='
  value : ∀ c ∈ parameter.2.toList, c ≠ '<' ∧ c ≠ ';' ∧ c ≠ '"'

/-- The text of parameters, each of which follows a `;`. -/
inductive WritesParameters : List (String × String) → List Char → Prop
  | nil : WritesParameters [] []
  | cons {key value : String} {parameters : List (String × String)} {a b c d text : List Char}
    (ha : IsGap a) (hb : IsGap b) (hc : IsGap c) (hd : IsGap d)
    (more : WritesParameters parameters text) :
    WritesParameters ((key, value) :: parameters)
      (a ++ ';' :: (b ++ (key.toList ++ (c ++ '=' :: (d ++ '"' :: (value.toList ++ '"' :: text))))))

/-- The value that is given last under one of some keys. -/
def given (keys : List String) (parameters : List (String × String)) : Option String :=
  ((parameters.filter (·.1 ∈ keys)).getLast?).map Prod.snd

def take (l : Link) (parameter : String × String) : Link :=
  if parameter.1 = "rel" then { l with rel := parameter.2 }
  else if parameter.1 = "type" then { l with mediaType := some parameter.2 }
  else if parameter.1 = "title" ∨ parameter.1 = "name" then { l with name := some parameter.2 }
  else l

theorem given_concat (keys : List String) (parameters : List (String × String))
    (parameter : String × String) : given keys (parameters ++ [parameter]) =
      if parameter.1 ∈ keys then some parameter.2 else given keys parameters := by
  by_cases h : parameter.1 ∈ keys <;> simp [given, List.filter_append, h]

theorem foldl_take (l : Link) (parameters : List (String × String)) : parameters.foldl take l =
    ⟨(given ["rel"] parameters).getD l.rel, l.href, (given ["type"] parameters).or l.mediaType,
      (given ["title", "name"] parameters).or l.name⟩ := by
  induction parameters using List.reverseRecOn with
  | nil => rfl
  | append_singleton parameters parameter ih =>
    simp only [List.foldl_append, List.foldl_cons, List.foldl_nil, ih, take, given_concat]
    by_cases hrel : parameter.1 = "rel"
    · simp [hrel]
    · by_cases htype : parameter.1 = "type"
      · simp [htype]
      · by_cases hname : parameter.1 = "title" ∨ parameter.1 = "name"
        · simp [hrel, htype, hname]
        · simp [hrel, htype, hname]

theorem IsGap.beq_eq_false {cs : List Char} {y : Char} (h : IsGap cs) (hy : isBlank y = false) :
    ∀ x ∈ cs, (x == y) = false :=
  beq_eq_false_of_notMem fun hmem => by simp [h y hmem] at hy

/-- White space around a written parameter does not count. -/
theorem readParameter_written (l : Link) {key value : String} {b c d gap : List Char}
    (hplain : IsPlain (key, value)) (hb : IsGap b) (hc : IsGap c) (hd : IsGap d)
    (hgap : IsGap gap) : readParameter l
      (b ++ (key.toList ++ (c ++ '=' :: (d ++ '"' :: (value.toList ++ '"' :: gap))))) =
      l.take (key, value) := by
  have hequals : ∀ x ∈ b ++ (key.toList ++ c), (x == '=') = false := by
    intro x hx
    simp only [List.mem_append] at hx
    rcases hx with hx | hx | hx
    · exact hb.beq_eq_false (by decide) x hx
    · exact beq_eq_false_iff_ne.2 (hplain.key x hx).2.2.2
    · exact hc.beq_eq_false (by decide) x hx
  have hkey : trimBlank (b ++ (key.toList ++ c)) = key.toList := by
    rw [trimBlank, trimBoth_append_of_forall hb hc]
    exact trimBoth_of_forall fun x hx => (hplain.key x hx).1
  have hvalue : parameterValue (d ++ '"' :: (value.toList ++ '"' :: gap)) = value := by
    have hassoc : d ++ '"' :: (value.toList ++ '"' :: gap) =
        d ++ (('"' :: (value.toList ++ ['"'])) ++ gap) := by simp
    have hquotes : ∀ x ∈ ['"'], (x.toNat == 0x22) = true := by simp
    rw [parameterValue, hassoc, trimBlank, trimBoth_append_of_forall hd hgap,
      trimBoth_between (by decide) (by decide), ← List.singleton_append,
      trimBoth_append_of_forall hquotes hquotes, trimBoth_of_forall, String.ofList_toList]
    intro x hx
    rw [beq_eq_false_iff_ne]
    exact fun h => (hplain.value x hx).2.2 (Char.toNat_inj.1 h)
  have hcut : cutFirst (· == '=') ((b ++ (key.toList ++ c)) ++
      '=' :: (d ++ '"' :: (value.toList ++ '"' :: gap))) =
      some (b ++ (key.toList ++ c), d ++ '"' :: (value.toList ++ '"' :: gap)) :=
    cutFirst_append_cons hequals rfl
  have hkeys (name : String) : key.toList = name.toList ↔ key = name := String.toList_inj
  simp only [List.append_assoc] at hcut
  simp only [readParameter, hcut, hkey, hvalue, take]
  simp only [← hkeys]
  rfl

theorem readParameter_gap (l : Link) {gap : List Char} (h : IsGap gap) :
    readParameter l gap = l := by
  have hcut : cutFirst (· == '=') gap = none :=
    cutFirst_of_forall (h.beq_eq_false (by decide))
  simp [readParameter, hcut]

/-- What separates an entry from the next one: white space, commas and white space again. -/
def Separates (cs : List Char) : Prop := ∃ a commas b : List Char,
  IsGap a ∧ (∀ c ∈ commas, c = ',') ∧ IsGap b ∧ cs = a ++ (commas ++ b)

variable {parameters : List (String × String)} {text gap : List Char}

/-- Cut at each `;`, written parameters are read one by one; the first piece is white space. -/
theorem WritesParameters.exists_pieces (h : WritesParameters parameters text)
    (hplain : ∀ p ∈ parameters, IsPlain p) (hgap : IsGap gap) : ∃ first more,
      pieces (· == ';') (text ++ gap) = first :: more ∧ IsGap first ∧
        ∀ l : Link, more.foldl readParameter l = parameters.foldl take l := by
  induction h with
  | nil =>
    refine ⟨gap, [], ?_, hgap, fun l => rfl⟩
    exact pieces_of_forall (hgap.beq_eq_false (by decide))
  | @cons key value parameters a b c d text ha hb hc hd more ih =>
    rw [List.forall_mem_cons] at hplain
    obtain ⟨first, rest, hpieces, hfirst, hread⟩ := ih hplain.2
    let body : List Char := b ++ (key.toList ++ (c ++ '=' :: (d ++ '"' :: (value.toList ++ ['"']))))
    have hbody : ∀ x ∈ body, (x == ';') = false := by
      intro x hx
      simp only [body, List.mem_append, List.mem_cons, List.not_mem_nil, or_false] at hx
      rcases hx with hx | hx | hx | rfl | hx | rfl | hx | rfl
      · exact hb.beq_eq_false (by decide) x hx
      · exact beq_eq_false_iff_ne.2 (hplain.1.key x hx).2.2.1
      · exact hc.beq_eq_false (by decide) x hx
      · rfl
      · exact hd.beq_eq_false (by decide) x hx
      · rfl
      · exact beq_eq_false_iff_ne.2 (hplain.1.value x hx).2.1
      · rfl
    refine ⟨a, (body ++ first) :: rest, ?_, ha, fun l => ?_⟩
    · have hcut : pieces (· == ';') (a ++ ';' :: (body ++ (text ++ gap))) =
          a :: (body ++ first) :: rest :=
        pieces_append_cons_append (ha.beq_eq_false (by decide)) rfl hbody hpieces
      simpa [body] using hcut
    · have hparameter := readParameter_written l hplain.1 hb hc hd hfirst
      have hassoc : body ++ first = b ++ (key.toList ++ (c ++ '=' ::
          (d ++ '"' :: (value.toList ++ '"' :: first)))) := by simp [body]
      rw [List.foldl_cons, hassoc, hparameter, hread]
      rfl

theorem WritesParameters.exists_concat (h : WritesParameters parameters text)
    (hsome : parameters ≠ []) : ∃ init, text = init ++ ['"'] := by
  induction h with
  | nil => exact absurd rfl hsome
  | @cons key value parameters a b c d text ha hb hc hd more ih =>
    cases more with
    | nil =>
      exact ⟨a ++ ';' :: (b ++ (key.toList ++ (c ++ '=' :: (d ++ '"' :: value.toList)))), by simp⟩
    | cons =>
      obtain ⟨init, hinit⟩ := ih (by simp)
      exact ⟨a ++ ';' :: (b ++ (key.toList ++ (c ++ '=' :: (d ++ '"' :: (value.toList ++
        '"' :: init))))), by simp [hinit]⟩

/-- Between white space and separators, what begins with `;` and ends with a quote is kept. -/
theorem exists_trimmed_between (init : List Char) {before u commas v : List Char} (hbefore : IsGap before)
    (hu : IsGap u) (hcommas : ∀ c ∈ commas, c = ',') (hv : IsGap v) : ∃ gap, IsGap gap ∧
      trimEnd (· == ',') (trimBlank (before ++ ';' :: (init ++ ['"']) ++ (u ++ (commas ++ v)))) =
        ';' :: (init ++ ['"']) ++ gap := by
  cases commas using List.reverseRecOn with
  | nil =>
    have hassoc : before ++ ';' :: (init ++ ['"']) ++ (u ++ ([] ++ v)) =
        before ++ (';' :: (init ++ ['"']) ++ (u ++ v)) := by simp
    have hgap : IsGap (u ++ v) := List.forall_mem_append.2 ⟨hu, hv⟩
    refine ⟨[], List.forall_mem_nil _, ?_⟩
    rw [hassoc, trimBlank, trimBoth_append_of_forall hbefore hgap,
      trimBoth_between (by decide) (by decide), ← List.cons_append, trimEnd_concat _ (by decide),
      List.append_nil]
  | append_singleton commas c =>
    obtain rfl : c = ',' := hcommas c (by simp)
    have hassoc : before ++ ';' :: (init ++ ['"']) ++ (u ++ (commas ++ [','] ++ v)) =
        before ++ (';' :: (init ++ ['"'] ++ u ++ commas ++ [',']) ++ v) := by simp
    have hend : ';' :: (init ++ ['"'] ++ u ++ commas ++ [',']) =
        (';' :: init ++ '"' :: u) ++ (commas ++ [',']) := by simp
    have hquote : trimEnd (· == ',') ('"' :: u) = '"' :: u := by
      apply trimEnd_of_forall
      rw [List.forall_mem_cons]
      exact ⟨rfl, hu.beq_eq_false (by decide)⟩
    refine ⟨u, hu, ?_⟩
    rw [hassoc, trimBlank, trimBoth_append_of_forall hbefore hv,
      trimBoth_between (by decide) (by decide), hend,
      trimEnd_append_of_forall fun x hx => by simp [hcommas x hx],
      trimEnd_append (x := '"') (by simp) (by decide), hquote]
    simp

/-- Trimming leaves the parameters as they are written, with nothing but white space after them. -/
theorem WritesParameters.exists_trimmed (h : WritesParameters parameters text) {after : List Char}
    (hafter : Separates after) : ∃ text' gap, WritesParameters parameters text' ∧ IsGap gap ∧
      trimEnd (· == ',') (trimBlank (text ++ after)) = text' ++ gap := by
  obtain ⟨u, commas, v, hu, hcommas, hv, rfl⟩ := hafter
  cases h with
  | nil =>
    have hblank : trimBlank ([] ++ (u ++ (commas ++ v))) = commas := by
      rw [List.nil_append, trimBlank, trimBoth_append_of_forall hu hv]
      exact trimBoth_of_forall fun x hx => by rw [hcommas x hx]; decide
    refine ⟨[], [], .nil, List.forall_mem_nil _, ?_⟩
    rw [hblank, ← List.nil_append commas,
      trimEnd_append_of_forall fun x hx => by simp [hcommas x hx]]
    rfl
  | @cons key value parameters a b c d text ha hb hc hd more =>
    have hrest : WritesParameters ((key, value) :: parameters) _ :=
      .cons (List.forall_mem_nil _) hb hc hd more
    obtain ⟨init, hinit⟩ := hrest.exists_concat (by simp)
    rw [List.nil_append] at hinit hrest
    cases init with
    | nil => simp at hinit
    | cons x init =>
      obtain ⟨rfl, hend⟩ := List.cons.inj hinit
      obtain ⟨gap, hgap, htrim⟩ := exists_trimmed_between init ha hu hcommas hv
      rw [hend] at hrest ⊢
      exact ⟨_, gap, hrest, hgap, htrim⟩

/-- The link that an entry describes, if it gives a relation. -/
def described (href : List Char) (parameters : List (String × String)) : Option Link :=
  let l : Link := ⟨(given ["rel"] parameters).getD "", String.ofList (trimBlank href),
    given ["type"] parameters, given ["title", "name"] parameters⟩
  if l.rel = "" then none else some l

theorem ofHeaderEntry_written {href after : List Char} (htarget : '>' ∉ href)
    (h : WritesParameters parameters text) (hplain : ∀ p ∈ parameters, IsPlain p)
    (hafter : Separates after) :
    ofHeaderEntry (href ++ '>' :: (text ++ after)) = described href parameters := by
  have hcut : cutFirst (· == '>') (href ++ '>' :: (text ++ after)) = some (href, text ++ after) :=
    cutFirst_append_cons (beq_eq_false_of_notMem htarget) rfl
  obtain ⟨text', gap, htext', hgap, htrim⟩ := h.exists_trimmed hafter
  obtain ⟨first, more, hpieces, hfirst, hread⟩ := htext'.exists_pieces hplain hgap
  simp only [ofHeaderEntry, hcut, htrim, hpieces, List.foldl_cons, readParameter_gap _ hfirst,
    hread, foldl_take, described, Option.or_none]

theorem ofHeaderEntry_unclosed {cs : List Char} (h : '>' ∉ cs) : ofHeaderEntry cs = none := by
  have hcut : cutFirst (· == '>') cs = none := cutFirst_of_forall (beq_eq_false_of_notMem h)
  simp [ofHeaderEntry, hcut]

/-- The key of a parameter, if it has a value. -/
def key? (parameter : List Char) : Option (List Char) :=
  (cutFirst (· == '=') parameter).map fun parts => trimBlank parts.1

/-- Parameters of which none gives a relation, however they are written. -/
def Unrelated (cs : List Char) : Prop :=
  ∀ parameter ∈ pieces (· == ';') cs, key? parameter ≠ some "rel".toList

theorem rel_readParameter_of_key (l : Link) {parameter : List Char}
    (h : key? parameter ≠ some "rel".toList) : (readParameter l parameter).rel = l.rel := by
  cases hcut : cutFirst (· == '=') parameter with
  | none => simp [readParameter, hcut]
  | some parts =>
    obtain ⟨key, raw⟩ := parts
    have hkey : trimBlank key ≠ ['r', 'e', 'l'] := by simpa [key?, hcut] using h
    simp only [readParameter, hcut, if_neg hkey]
    split
    · rfl
    · split <;> rfl

theorem rel_foldl_of_keys {parameters : List (List Char)}
    (h : ∀ parameter ∈ parameters, key? parameter ≠ some "rel".toList) (l : Link) :
    (parameters.foldl readParameter l).rel = l.rel := by
  induction parameters generalizing l with
  | nil => rfl
  | cons parameter parameters ih =>
    rw [List.forall_mem_cons] at h
    rw [List.foldl_cons, ih h.2, rel_readParameter_of_key l h.1]

theorem key?_append {after : List Char} (h : ∀ c ∈ after, (c == '=') = false)
    (parameter : List Char) : key? (parameter ++ after) = key? parameter := by
  simp [key?, cutFirst_append_right h, Function.comp_def]

theorem key?_gap_append (h : IsGap gap) (parameter : List Char) :
    key? (gap ++ parameter) = key? parameter := by
  have htrim (key : List Char) : trimBlank (gap ++ key) = trimBlank key := by
    have hnone : trimBlank (gap ++ (key ++ [])) = trimBlank key :=
      trimBoth_append_of_forall h (List.forall_mem_nil _)
    rwa [List.append_nil] at hnone
  have hequals := h.beq_eq_false (y := '=') (by decide)
  simp [key?, cutFirst_append_left hequals, Function.comp_def, htrim]

/-- What marks neither the end of a parameter nor that of its key changes no keys. -/
theorem unrelated_append {after : List Char} (hsemicolon : ∀ c ∈ after, (c == ';') = false)
    (hequals : ∀ c ∈ after, (c == '=') = false) (cs : List Char) :
    Unrelated (cs ++ after) ↔ Unrelated cs := by
  obtain ⟨init, last, hcs, happend⟩ := exists_pieces_append cs (pieces_of_forall hsemicolon)
  simp [Unrelated, hcs, happend, or_imp, forall_and, key?_append hequals]

theorem unrelated_gap_append (h : IsGap gap) (cs : List Char) :
    Unrelated (gap ++ cs) ↔ Unrelated cs := by
  obtain ⟨first, more, hcs⟩ := List.exists_cons_of_ne_nil (pieces_ne_nil (· == ';') cs)
  have happend := pieces_append (h.beq_eq_false (y := ';') (by decide)) hcs
  simp [Unrelated, hcs, happend, key?_gap_append h]

theorem ofHeaderEntry_unrelated {href cs : List Char} (htarget : '>' ∉ href) (h : Unrelated cs) :
    ofHeaderEntry (href ++ '>' :: cs) = none := by
  have hcut : cutFirst (· == '>') (href ++ '>' :: cs) = some (href, cs) :=
    cutFirst_append_cons (beq_eq_false_of_notMem htarget) rfl
  have htrimmed : Unrelated (trimEnd (· == ',') (trimBlank cs)) := by
    obtain ⟨before, after, hcs, hbefore, hafter⟩ := exists_trimBoth_append isBlank cs
    obtain ⟨commas, hmiddle, hcommas⟩ := exists_trimEnd_append (· == ',') (trimBlank cs)
    have hgap : IsGap after := hafter
    have hfree {y : Char} (hy : y ≠ ',') : ∀ c ∈ commas, (c == y) = false := fun c hc => by
      rw [beq_iff_eq.1 (hcommas c hc)]
      exact beq_eq_false_iff_ne.2 hy.symm
    rw [hcs, unrelated_gap_append hbefore, unrelated_append (hgap.beq_eq_false (by decide))
      (hgap.beq_eq_false (by decide))] at h
    rw [← trimBlank, hmiddle] at h
    exact (unrelated_append (hfree (by decide)) (hfree (by decide)) _).1 h
  simp only [ofHeaderEntry, hcut]
  rw [if_pos (rel_foldl_of_keys htrimmed _)]

/-- A text between the commas of a header, with the link of its own: that of an entry which is
written as it should be, and none of an entry without a relation, of a `<` that no `>` closes and
of text without a `<`. Such text is subject to `bare`. -/
inductive EntryText (bare : List Char → Prop) : Option Link → List Char → Prop
  | entry {href before text after : List Char} {parameters : List (String × String)}
    (target : ∀ c ∈ href, c ≠ '<' ∧ c ≠ '>') (plain : ∀ p ∈ parameters, IsPlain p)
    (writes : WritesParameters parameters text) (hbefore : IsGap before) (hafter : IsGap after) :
    EntryText bare (described href parameters)
      (before ++ '<' :: (href ++ '>' :: (text ++ after)))
  | unrelated {href before text : List Char} (target : ∀ c ∈ href, c ≠ '<' ∧ c ≠ '>')
    (unopened : '<' ∉ text) (unrelated : Unrelated text) (hbefore : IsGap before) :
    EntryText bare none (before ++ '<' :: (href ++ '>' :: text))
  | unclosed {before text : List Char} (hbefore : IsGap before) (unclosed : '>' ∉ text) :
    EntryText bare none (before ++ '<' :: text)
  | bare {text : List Char} (unopened : '<' ∉ text) (h : bare text) : EntryText bare none text

/-- What may follow an entry before the next `<`. -/
def Trails (cs : List Char) : Prop :=
  ∃ commas gap : List Char, (∀ c ∈ commas, c = ',') ∧ IsGap gap ∧ cs = commas ++ gap

theorem Trails.beq_eq_false {cs : List Char} {y : Char} (h : Trails cs) (hcomma : y ≠ ',')
    (hy : isBlank y = false) : ∀ x ∈ cs, (x == y) = false := by
  obtain ⟨commas, gap, hcommas, hgap, rfl⟩ := h
  refine List.forall_mem_append.2 ⟨fun x hx => ?_, hgap.beq_eq_false hy⟩
  rw [hcommas x hx]
  exact beq_eq_false_iff_ne.2 hcomma.symm

theorem WritesParameters.beq_eq_false (h : WritesParameters parameters text)
    (hplain : ∀ p ∈ parameters, IsPlain p) : ∀ x ∈ text, (x == '<') = false := by
  induction h with
  | nil => exact List.forall_mem_nil _
  | @cons key value parameters a b c d text ha hb hc hd more ih =>
    rw [List.forall_mem_cons] at hplain
    have hkey : ∀ x ∈ key.toList, (x == '<') = false :=
      fun x hx => beq_eq_false_iff_ne.2 (hplain.1.key x hx).2.1
    have hvalue : ∀ x ∈ value.toList, (x == '<') = false :=
      fun x hx => beq_eq_false_iff_ne.2 (hplain.1.value x hx).1
    simp only [List.forall_mem_append, List.forall_mem_cons]
    exact ⟨ha.beq_eq_false (by decide), rfl, hb.beq_eq_false (by decide), hkey,
      hc.beq_eq_false (by decide), rfl, hd.beq_eq_false (by decide), rfl, hvalue, rfl, ih hplain.2⟩

variable {bare : List Char → Prop} {link? : Option Link} {after first : List Char}
  {more : List (List Char)}

theorem exists_pieces_opened {before body : List Char} (hbefore : IsGap before)
    (hbody : ∀ x ∈ body, (x == '<') = false) (hafter : pieces (· == '<') after = first :: more)
    (hread : ofHeaderEntry (body ++ first) = link?) : ∃ first' more',
      pieces (· == '<') (before ++ '<' :: (body ++ after)) = first' :: more' ∧ Trails first' ∧
        more'.filterMap ofHeaderEntry = link?.toList ++ more.filterMap ofHeaderEntry := by
  refine ⟨before, (body ++ first) :: more, ?_, ?_, ?_⟩
  · exact pieces_append_cons_append (hbefore.beq_eq_false (by decide)) rfl hbody hafter
  · exact ⟨[], before, List.forall_mem_nil _, hbefore, rfl⟩
  · rw [List.filterMap_cons, hread]
    cases link? <;> rfl

/-- An entry adds its link to those of what follows it, if bare texts are commas only. -/
theorem EntryText.exists_pieces (h : EntryText bare link? text)
    (hbare : ∀ t, '<' ∉ t → bare t → ∀ c ∈ t, c = ',')
    (hafter : pieces (· == '<') after = first :: more) (hfirst : Trails first) : ∃ first' more',
      pieces (· == '<') (text ++ after) = first' :: more' ∧ Trails first' ∧
        more'.filterMap ofHeaderEntry = link?.toList ++ more.filterMap ofHeaderEntry := by
  cases h with
  | @entry href before text gap parameters target plain writes hbefore hgap =>
    let body : List Char := href ++ '>' :: (text ++ gap)
    have hbody : ∀ x ∈ body, (x == '<') = false := by
      simp only [body, List.forall_mem_append, List.forall_mem_cons]
      exact ⟨fun x hx => beq_eq_false_iff_ne.2 (target x hx).1, rfl, writes.beq_eq_false plain,
        hgap.beq_eq_false (by decide)⟩
    have hread : ofHeaderEntry (body ++ first) = described href parameters := by
      obtain ⟨commas, gap', hcommas, hgap', rfl⟩ := hfirst
      have hassoc : body ++ (commas ++ gap') =
          href ++ '>' :: (text ++ (gap ++ (commas ++ gap'))) := by simp [body]
      rw [hassoc]
      exact ofHeaderEntry_written (fun hmem => (target _ hmem).2 rfl) writes plain
        ⟨gap, commas, gap', hgap, hcommas, hgap', rfl⟩
    simpa [body] using exists_pieces_opened hbefore hbody hafter hread
  | @unrelated href before text target unopened unrelated hbefore =>
    let body : List Char := href ++ '>' :: text
    have hbody : ∀ x ∈ body, (x == '<') = false := by
      simp only [body, List.forall_mem_append, List.forall_mem_cons]
      exact ⟨fun x hx => beq_eq_false_iff_ne.2 (target x hx).1, rfl,
        beq_eq_false_of_notMem unopened⟩
    have hread : ofHeaderEntry (body ++ first) = none := by
      have hunrelated : Unrelated (text ++ first) :=
        (unrelated_append (hfirst.beq_eq_false (by decide) (by decide))
          (hfirst.beq_eq_false (by decide) (by decide)) text).2 unrelated
      simpa [body] using ofHeaderEntry_unrelated (fun hmem => (target _ hmem).2 rfl) hunrelated
    simpa [body] using exists_pieces_opened hbefore hbody hafter hread
  | @unclosed before text hbefore unclosed =>
    obtain ⟨init, last, htext, happend⟩ := exists_pieces_append text hafter
    have hcut : pieces (· == '<') (before ++ '<' :: (text ++ after)) =
        pieces (· == '<') before ++ pieces (· == '<') (text ++ after) := pieces_append_cons rfl
    rw [happend, pieces_of_forall (hbefore.beq_eq_false (by decide))] at hcut
    have hpiece {piece : List Char} (h : piece ∈ init ++ [last]) : '>' ∉ piece :=
      fun hmem => unclosed (mem_of_mem_pieces (htext ▸ h) hmem)
    have hinit : init.filterMap ofHeaderEntry = [] :=
      List.filterMap_eq_nil_iff.2 fun piece h =>
        ofHeaderEntry_unclosed (hpiece (List.mem_append_left _ h))
    have hlast : ofHeaderEntry (last ++ first) = none := by
      apply ofHeaderEntry_unclosed
      rw [List.mem_append, not_or]
      refine ⟨hpiece (List.mem_append_right _ List.mem_cons_self), fun hmem => ?_⟩
      have hne := hfirst.beq_eq_false (y := '>') (by decide) (by decide) _ hmem
      simp at hne
    refine ⟨before, init ++ (last ++ first) :: more, by simpa using hcut, ?_, ?_⟩
    · exact ⟨[], before, List.forall_mem_nil _, hbefore, rfl⟩
    · simp [List.filterMap_append, hinit, hlast]
  | bare unopened h =>
    have hcommas := hbare text unopened h
    have htext : ∀ x ∈ text, (x == '<') = false := fun x hx => by rw [hcommas x hx]; rfl
    obtain ⟨commas, gap, hfirstCommas, hgap, rfl⟩ := hfirst
    refine ⟨_, more, pieces_append htext hafter, ?_, rfl⟩
    exact ⟨text ++ commas, gap, List.forall_mem_append.2 ⟨hcommas, hfirstCommas⟩, hgap, by simp⟩

theorem exists_pieces_joined {links : List (Option Link)} {texts : List (List Char)}
    (h : List.Forall₂ (EntryText bare) links texts)
    (hbare : ∀ t, '<' ∉ t → bare t → ∀ c ∈ t, c = ',') : ∃ first more,
      pieces (· == '<') (joinWith [','] texts) = first :: more ∧ Trails first ∧
        more.filterMap ofHeaderEntry = links.filterMap id := by
  have hnil : Trails [] := ⟨[], [], List.forall_mem_nil _, List.forall_mem_nil _, rfl⟩
  induction h with
  | nil => exact ⟨[], [], rfl, hnil, rfl⟩
  | @cons link? text links texts hentry htexts ih =>
    obtain ⟨first, more, hpieces, hfirst, hread⟩ := ih
    cases htexts with
    | nil =>
      obtain ⟨first', more', hcut, htrails, hlinks⟩ :=
        hentry.exists_pieces hbare (pieces_nil _) hnil
      refine ⟨first', more', by simpa [joinWith] using hcut, htrails, ?_⟩
      cases link? <;> simpa using hlinks
    | @cons link' text' links texts hentry' htexts =>
      obtain ⟨commas, gap, hcommas, hgap, rfl⟩ := hfirst
      have hcomma : pieces (· == '<') (',' :: joinWith [','] (text' :: texts)) =
          (',' :: (commas ++ gap)) :: more := by simp [pieces, hpieces]
      have hafter : Trails (',' :: (commas ++ gap)) :=
        ⟨',' :: commas, gap, by simpa using hcommas, hgap, rfl⟩
      obtain ⟨first', more', hcut, htrails, hlinks⟩ := hentry.exists_pieces hbare hcomma hafter
      refine ⟨first', more', by simpa [joinWith] using hcut, htrails, ?_⟩
      rw [hlinks, hread]
      cases link? <;> rfl

/-- Texts between commas give the links of the entries among them, in order. -/
theorem ofHeader_joined {links : List (Option Link)} {texts : List (List Char)}
    (h : List.Forall₂ (EntryText bare) links texts)
    (hbare : ∀ t, '<' ∉ t → bare t → ∀ c ∈ t, c = ',') :
    ofHeader (String.ofList (joinWith [','] texts)) = links.filterMap id := by
  obtain ⟨first, more, hpieces, -, hread⟩ := exists_pieces_joined h hbare
  rw [ofHeader, String.toList_ofList, hpieces, List.drop_one, List.tail_cons, hread]

end CloudDirector.Link
