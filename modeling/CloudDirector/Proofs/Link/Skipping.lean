import CloudDirector.Proofs.Link.Entries

/-!
# Malformed entries of link headers

An entry that nothing closes or that has no relation is passed over, wherever it stands. Text
without a `<` is passed over before the first entry. Behind an entry it is taken for a part of that
entry's last parameter, so that no such text but commas can stand there without doing harm.
-/
namespace CloudDirector.Link
open Text

theorem ofHeader_append {text : List Char} (h : '<' ∉ text) (cs : List Char) :
    ofHeader (String.ofList (text ++ cs)) = ofHeader (String.ofList cs) := by
  have htext := beq_eq_false_of_notMem h
  obtain ⟨first, more, hpieces⟩ := List.exists_cons_of_ne_nil (pieces_ne_nil (· == '<') cs)
  simp only [ofHeader, String.toList_ofList, pieces_append htext hpieces, hpieces, List.drop_one,
    List.tail_cons]

theorem ofHeader_start {start : List (List Char)} (h : ∀ t ∈ start, '<' ∉ t)
    (texts : List (List Char)) : ofHeader (String.ofList (joinWith [','] (start ++ texts))) =
      ofHeader (String.ofList (joinWith [','] texts)) := by
  induction start with
  | nil => rfl
  | cons t start ih =>
    rw [List.forall_mem_cons] at h
    rw [← ih h.2, List.cons_append]
    cases start ++ texts with
    | nil => simpa [joinWith] using ofHeader_append h.1 []
    | cons t' rest =>
      have hcomma : '<' ∉ t ++ [','] := by simp [h.1]
      exact ofHeader_append hcomma _

theorem rel_readParameter (parameter : List Char) :
    (∃ rel, ∀ l, (readParameter l parameter).rel = rel) ∨
      ∀ l, (readParameter l parameter).rel = l.rel := by
  by_cases hkey : key? parameter = some "rel".toList
  · obtain ⟨⟨key, raw⟩, hcut, htrim⟩ := Option.map_eq_some_iff.1 hkey
    have hrel : trimBlank key = ['r', 'e', 'l'] := htrim
    exact .inl ⟨parameterValue raw, fun l => by simp only [readParameter, hcut, if_pos hrel]⟩
  · exact .inr fun l => rel_readParameter_of_key l hkey

/-- Parameters give a link a relation of their own, or leave the one that it has. -/
theorem rel_foldl_readParameter (parameters : List (List Char)) :
    (∃ rel, ∀ l, (parameters.foldl readParameter l).rel = rel) ∨
      ∀ l, (parameters.foldl readParameter l).rel = l.rel := by
  induction parameters with
  | nil => exact .inr fun _ => rfl
  | cons parameter parameters ih =>
    rcases ih with ⟨rel, hrel⟩ | hrel
    · exact .inl ⟨rel, fun l => hrel _⟩
    · rcases rel_readParameter parameter with ⟨rel, hread⟩ | hread
      · exact .inl ⟨rel, fun l => (hrel _).trans (hread l)⟩
      · exact .inr fun l => (hrel _).trans (hread l)

/-- A parameter that gives a relation. -/
def relParameter (rel : String) : List Char :=
  'r' :: 'e' :: 'l' :: '=' :: '"' :: (rel.toList ++ ['"'])

/-- An entry with a relation and nothing else. -/
def sample (rel : String) : List Char := '<' :: '>' :: ';' :: relParameter rel

theorem entryText_sample {bare : List Char → Prop} {rel : String} (hrel : rel ≠ "")
    (hplain : IsPlain ("rel", rel)) : EntryText bare (some ⟨rel, "", none, none⟩) (sample rel) := by
  have hgap : IsGap [] := List.forall_mem_nil _
  have hdescribed : described [] [("rel", rel)] = some ⟨rel, "", none, none⟩ := by
    simp [described, given, hrel, trimBlank]
  have hentry : EntryText bare (described [] [("rel", rel)]) ([] ++ '<' :: ([] ++ '>' :: _)) :=
    .entry (List.forall_mem_nil _) (by simpa using hplain) (.cons hgap hgap hgap hgap .nil) hgap
      hgap
  rw [hdescribed] at hentry
  simpa [sample, relParameter] using hentry

/-- The value of the parameter ends where the parameter does, not where its quote is closed. -/
theorem readParameter_relParameter (l : Link) (rel : String) (after : List Char) :
    readParameter l (relParameter rel ++ after) =
      { l with rel := parameterValue ('"' :: (rel.toList ++ '"' :: after)) } := by
  have hequals : cutFirst (· == '=') (relParameter rel ++ after) =
      some (['r', 'e', 'l'], '"' :: (rel.toList ++ '"' :: after)) := by
    simp [relParameter, cutFirst]
  have hkey : trimBlank ['r', 'e', 'l'] = ['r', 'e', 'l'] := by decide
  simp only [readParameter, hequals, if_pos hkey]

theorem pieces_relParameter {rel : String} (hrel : ∀ c ∈ rel.toList, c ≠ ';')
    {after first : List Char} {more : List (List Char)} (h : pieces (· == ';') after = first :: more) :
    pieces (· == ';') (';' :: (relParameter rel ++ after)) =
      [] :: (relParameter rel ++ first) :: more := by
  have hfree : ∀ x ∈ relParameter rel, (x == ';') = false := by
    simp only [relParameter, List.forall_mem_cons, List.forall_mem_append]
    exact ⟨rfl, rfl, rfl, rfl, rfl, fun x hx => beq_eq_false_iff_ne.2 (hrel x hx), rfl,
      List.forall_mem_nil _⟩
  simp [pieces, pieces_append hfree h]

/-- What stands between two entries is a part of the first one, unless it is commas. -/
theorem ofHeaderEntry_trailed {t : List Char} (ht : ∃ c ∈ t, c ≠ ',') :
    ∃ (first : List Char) (more : List (List Char)), ∀ rel : String, (∀ c ∈ rel.toList, c ≠ ';') →
      ofHeaderEntry ('>' :: ';' :: (relParameter rel ++ ',' :: (t ++ [',']))) =
        let l := more.foldl readParameter
          ⟨parameterValue ('"' :: (rel.toList ++ '"' :: ',' :: first)), "", none, none⟩
        if l.rel = "" then none else some l := by
  obtain ⟨c, hc, hcomma⟩ := ht
  obtain ⟨first, more, hpieces⟩ := List.exists_cons_of_ne_nil
    (pieces_ne_nil (· == ';') (trimEnd (· == ',') t))
  refine ⟨first, more, fun rel hrel => ?_⟩
  have hopen (cs : List Char) : cutFirst (· == '>') ('>' :: cs) = some ([], cs) := by
    simp [cutFirst]
  have htrim : trimEnd (· == ',') (trimBlank (';' :: (relParameter rel ++ ',' :: (t ++ [','])))) =
      ';' :: (relParameter rel ++ ',' :: trimEnd (· == ',') t) := by
    have hassoc : relParameter rel ++ ',' :: (t ++ [',']) =
        (relParameter rel ++ [','] ++ t) ++ [','] := by simp
    have hkeep : trimEnd (· == ',') (';' :: (relParameter rel ++ [',']) ++ t) =
        ';' :: (relParameter rel ++ [',']) ++ trimEnd (· == ',') t :=
      trimEnd_append hc (by simpa using hcomma)
    rw [hassoc, trimBlank, trimBoth_between (by decide) (by decide), ← List.cons_append,
      trimEnd_append_of_forall (by simp)]
    simpa using hkeep
  have hcomma : pieces (· == ';') (',' :: trimEnd (· == ',') t) = (',' :: first) :: more := by
    simp [pieces, hpieces]
  have hhref : String.ofList (trimBlank []) = "" := rfl
  rw [ofHeaderEntry, hopen]
  simp only [htrim, pieces_relParameter hrel hcomma, List.foldl_cons,
    readParameter_gap _ (List.forall_mem_nil _), readParameter_relParameter, hhref]

/-- The value of a parameter keeps what stands behind its closing quote. -/
theorem comma_mem_parameterValue (before after : List Char) :
    ',' ∈ (parameterValue (before ++ ',' :: after)).toList := by
  have hmem : ',' ∈ before ++ ',' :: after := by simp
  rw [parameterValue, String.toList_ofList]
  exact mem_trimBoth (mem_trimBoth hmem (by decide)) (by decide)

/-- If two entries with text between them give two links, the first one gives one of them. -/
theorem ofHeaderEntry_of_ofHeader {rel : String} {t : List Char} {l : Link}
    (hrel : '<' ∉ rel.toList) (hopened : '<' ∉ t)
    (h : ofHeader (String.ofList (joinWith [','] [sample rel, t, sample rel])) = [l, l]) :
    ofHeaderEntry ('>' :: ';' :: (relParameter rel ++ ',' :: (t ++ [',']))) = some l := by
  let entry : List Char := '>' :: ';' :: relParameter rel
  have hentry : '<' ∉ entry := by simp [entry, relParameter, hrel]
  have htrailed : '<' ∉ entry ++ ',' :: (t ++ [',']) := by simp [hentry, hopened]
  have hlast : pieces (· == '<') ('<' :: entry) = [[], entry] := by
    simp [pieces, pieces_of_forall (beq_eq_false_of_notMem hentry)]
  have hjoin : joinWith [','] [sample rel, t, sample rel] =
      '<' :: ((entry ++ ',' :: (t ++ [','])) ++ '<' :: entry) := by
    simp [joinWith, sample, entry]
  have hcut : pieces (· == '<') (joinWith [','] [sample rel, t, sample rel]) =
      [[], entry ++ ',' :: (t ++ [',']), entry] := by
    rw [hjoin, pieces, if_pos (by decide), pieces_append (beq_eq_false_of_notMem htrailed) hlast,
      List.append_nil]
  have hfirst {a b : List Char} (h : [a, b].filterMap ofHeaderEntry = [l, l]) :
      ofHeaderEntry a = some l := by
    cases ha : ofHeaderEntry a with
    | none =>
      rw [List.filterMap_cons_none ha] at h
      have hlength := List.length_filterMap_le ofHeaderEntry [b]
      simp [h] at hlength
    | some first =>
      rw [List.filterMap_cons_some ha] at h
      rw [(List.cons.inj h).1]
  rw [ofHeader, String.toList_ofList, hcut, List.drop_one, List.tail_cons] at h
  exact hfirst h

/-- Of two relations behind which the same text stands, one at least is not read as it is given. -/
theorem exists_ofHeader_trailed_ne {t : List Char} (hopened : '<' ∉ t) (ht : ∃ c ∈ t, c ≠ ',') :
    ∃ rel ∈ ["a", "b"], ofHeader (String.ofList (joinWith [','] [sample rel, t, sample rel])) ≠
      [⟨rel, "", none, none⟩, ⟨rel, "", none, none⟩] := by
  by_contra hall
  obtain ⟨first, more, hread⟩ := ofHeaderEntry_trailed ht
  have hkept : ∀ rel ∈ ["a", "b"], (more.foldl readParameter
      ⟨parameterValue ('"' :: (rel.toList ++ '"' :: ',' :: first)), "", none, none⟩).rel = rel := by
    intro rel hrel
    have hchars : ∀ c ∈ rel.toList, c ≠ '<' ∧ c ≠ ';' := by
      simp only [List.mem_cons, List.not_mem_nil, or_false] at hrel
      rcases hrel with rfl | rfl <;> simp
    have hentry := ofHeaderEntry_of_ofHeader (fun h => (hchars _ h).1 rfl) hopened
      (not_not.1 fun hne => hall ⟨rel, hrel, hne⟩)
    rw [hread rel fun c hc => (hchars c hc).2] at hentry
    simp only [Option.ite_none_left_eq_some, Option.some.injEq] at hentry
    rw [hentry.2]
  have ha := hkept "a" (by simp)
  have hb := hkept "b" (by simp)
  rcases rel_foldl_readParameter more with ⟨rel, hrel⟩ | hrel
  · rw [hrel] at ha hb
    exact absurd (ha.symm.trans hb) (by decide)
  · have hcomma := comma_mem_parameterValue ('"' :: ("a".toList ++ ['"'])) first
    rw [hrel] at ha
    rw [show parameterValue ('"' :: ("a".toList ++ ['"']) ++ ',' :: first) = "a" by simpa using ha]
      at hcomma
    exact absurd hcomma (by decide)

/-- Malformed entries are passed over exactly if text without a `<`, which does no harm before the
first entry, is nothing but commas behind it. -/
theorem malformed_skipped_iff (bare : List Char → Prop) :
    (∀ (start : List (List Char)) (links : List (Option Link)) (texts : List (List Char)),
      (∀ t ∈ start, '<' ∉ t) → List.Forall₂ (EntryText bare) links texts →
        ofHeader (String.ofList (joinWith [','] (start ++ texts))) = links.filterMap id) ↔
      ∀ t, '<' ∉ t → bare t → ∀ c ∈ t, c = ',' := by
  constructor
  · intro hskip t hopened ht
    by_contra hcommas
    obtain ⟨c, hc⟩ := not_forall.1 hcommas
    obtain ⟨rel, hrel, hne⟩ := exists_ofHeader_trailed_ne hopened ⟨c, Classical.not_imp.1 hc⟩
    have hsample : EntryText bare (some ⟨rel, "", none, none⟩) (sample rel) := by
      simp only [List.mem_cons, List.not_mem_nil, or_false] at hrel
      rcases hrel with rfl | rfl <;>
        exact entryText_sample (by simp) ⟨by simp [isBlank], by simp⟩
    exact hne (hskip [] [some _, none, some _] _ (List.forall_mem_nil _)
      (.cons hsample (.cons (.bare hopened ht) (.cons hsample .nil))))
  · intro hbare start links texts hstart htexts
    rw [ofHeader_start hstart, ofHeader_joined htexts hbare]

/-- Text behind an entry is not passed over: it ends up in the relation of the entry. -/
theorem not_skipped_behind_entry :
    (¬∀ (start : List (List Char)) (links : List (Option Link)) (texts : List (List Char)),
      (∀ t ∈ start, '<' ∉ t) → List.Forall₂ (EntryText fun _ => True) links texts →
        ofHeader (String.ofList (joinWith [','] (start ++ texts))) = links.filterMap id) ∧
    ofHeader "<http://vcd.test/a>;rel=\"up\", junk" =
      [⟨"up\", junk", "http://vcd.test/a", none, none⟩] := by
  refine ⟨fun hskip => ?_, by decide +kernel⟩
  have hcommas := (malformed_skipped_iff fun _ => True).1 hskip ['x'] (by simp) trivial
  simp at hcommas

end CloudDirector.Link
