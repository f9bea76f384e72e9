import CloudDirector.Text.Blank
import CloudDirector.Text.Cut
import Mathlib.Data.List.TakeWhile

/-!
# Cutting and trimming texts that are put together

A text is cut where its parts meet, if the parts themselves hold no separator. Trimming takes away
what surrounds a text and keeps every character that is not of the class that is trimmed.
-/
namespace CloudDirector.Text

variable {sep p : Char → Bool} {c : Char} {cs before after piece : List Char}

-- What all characters of a text have is decided along the text, and not for every character there is.
instance decidableForallMem {q : Char → Prop} [DecidablePred q] (cs : List Char) : Decidable (∀ c ∈ cs, q c) :=
  List.decidableBAll q cs

theorem beq_eq_false_of_notMem (h : c ∉ cs) : ∀ x ∈ cs, (x == c) = false := by
  intro x hx
  rw [beq_eq_false_iff_ne]
  rintro rfl
  exact h hx

theorem pieces_of_forall (h : ∀ c ∈ cs, sep c = false) : pieces sep cs = [cs] := by
  induction cs with
  | nil => rfl
  | cons c cs ih =>
    rw [List.forall_mem_cons] at h
    simp [pieces, h.1, ih h.2]

/-- The last piece of a text grows by the first one of the text that follows. -/
theorem exists_pieces_append (before : List Char) {first : List Char} {more : List (List Char)}
    (hafter : pieces sep after = first :: more) : ∃ init last,
      pieces sep before = init ++ [last] ∧
        pieces sep (before ++ after) = init ++ (last ++ first) :: more := by
  induction before with
  | nil => exact ⟨[], [], rfl, hafter⟩
  | cons c before ih =>
    obtain ⟨init, last, hbefore, happend⟩ := ih
    cases hc : sep c with
    | true => exact ⟨[] :: init, last, by simp [pieces, hc, hbefore], by simp [pieces, hc, happend]⟩
    | false =>
      cases init with
      | nil => exact ⟨[], c :: last, by simp [pieces, hc, hbefore], by simp [pieces, hc, happend]⟩
      | cons piece init =>
        exact ⟨(c :: piece) :: init, last, by simp [pieces, hc, hbefore],
          by simp [pieces, hc, happend]⟩

theorem pieces_append {first : List Char} {more : List (List Char)}
    (h : ∀ c ∈ before, sep c = false) (hafter : pieces sep after = first :: more) :
    pieces sep (before ++ after) = (before ++ first) :: more := by
  obtain ⟨init, last, hbefore, happend⟩ := exists_pieces_append before hafter
  rw [pieces_of_forall h] at hbefore
  cases init with
  | nil =>
    cases hbefore
    exact happend
  | cons => simp at hbefore

theorem pieces_append_cons (h : sep c = true) :
    pieces sep (before ++ c :: after) = pieces sep before ++ pieces sep after := by
  induction before with
  | nil => simp [pieces, h]
  | cons b before ih =>
    cases hb : sep b with
    | true => simp [pieces, hb, ih]
    | false =>
      obtain ⟨first, more, hpieces⟩ := List.exists_cons_of_ne_nil (pieces_ne_nil sep before)
      simp [pieces, hb, ih, hpieces]

theorem pieces_append_cons_append {body first : List Char} {more : List (List Char)}
    (hbefore : ∀ c ∈ before, sep c = false) (hc : sep c = true) (hbody : ∀ c ∈ body, sep c = false)
    (hafter : pieces sep after = first :: more) :
    pieces sep (before ++ c :: (body ++ after)) = before :: (body ++ first) :: more := by
  rw [pieces_append_cons hc, pieces_append hbody hafter, pieces_of_forall hbefore,
    List.singleton_append]

/-- The first piece ends where the text ends, or before the first separator. -/
theorem pieces_eq_cons {first : List Char} {more : List (List Char)} :
    pieces sep cs = first :: more ↔ (∀ c ∈ first, sep c = false) ∧
      ((cs = first ∧ more = []) ∨
        ∃ c after, cs = first ++ c :: after ∧ sep c = true ∧ pieces sep after = more) := by
  constructor
  · intro h
    induction cs generalizing first with
    | nil =>
      cases h
      exact ⟨List.forall_mem_nil _, .inl ⟨rfl, rfl⟩⟩
    | cons b cs ih =>
      cases hb : sep b with
      | true =>
        simp only [pieces, hb, if_true] at h
        cases h
        exact ⟨List.forall_mem_nil _, .inr ⟨b, cs, rfl, hb, rfl⟩⟩
      | false =>
        obtain ⟨piece, rest, hpieces⟩ := List.exists_cons_of_ne_nil (pieces_ne_nil sep cs)
        simp only [pieces, hb, hpieces, Bool.false_eq_true, if_false] at h
        cases h
        obtain ⟨hpiece, hcs⟩ := ih hpieces
        refine ⟨List.forall_mem_cons.2 ⟨hb, hpiece⟩, ?_⟩
        rcases hcs with ⟨rfl, rfl⟩ | ⟨c, after, rfl, hc, hafter⟩
        · exact .inl ⟨rfl, rfl⟩
        · exact .inr ⟨c, after, rfl, hc, hafter⟩
  · rintro ⟨hfirst, ⟨rfl, rfl⟩ | ⟨c, after, rfl, hc, rfl⟩⟩
    · exact pieces_of_forall hfirst
    · rw [pieces_append_cons hc, pieces_of_forall hfirst, List.singleton_append]

theorem mem_of_mem_pieces (h : piece ∈ pieces sep cs) (hc : c ∈ piece) : c ∈ cs := by
  induction cs generalizing piece with
  | nil => simp_all
  | cons b cs ih =>
    cases hb : sep b with
    | true =>
      simp only [pieces, hb, if_true, List.mem_cons] at h
      rcases h with rfl | h
      · cases hc
      · exact List.mem_cons_of_mem b (ih h hc)
    | false =>
      obtain ⟨first, more, hpieces⟩ := List.exists_cons_of_ne_nil (pieces_ne_nil sep cs)
      simp only [pieces, hb, hpieces, Bool.false_eq_true, if_false, List.mem_cons] at h
      rcases h with rfl | h
      · rcases List.mem_cons.1 hc with rfl | hc
        · exact List.mem_cons_self
        · exact List.mem_cons_of_mem b (ih (hpieces ▸ List.mem_cons_self) hc)
      · exact List.mem_cons_of_mem b (ih (hpieces ▸ List.mem_cons_of_mem first h) hc)

/-- Pieces hold no separator. -/
theorem sep_of_mem_pieces (h : piece ∈ pieces sep cs) (hc : c ∈ piece) : sep c = false := by
  induction cs generalizing piece with
  | nil => simp_all
  | cons b cs ih =>
    cases hb : sep b with
    | true =>
      simp only [pieces, hb, if_true, List.mem_cons] at h
      rcases h with rfl | h
      · cases hc
      · exact ih h hc
    | false =>
      obtain ⟨first, more, hpieces⟩ := List.exists_cons_of_ne_nil (pieces_ne_nil sep cs)
      simp only [pieces, hb, hpieces, Bool.false_eq_true, if_false, List.mem_cons] at h
      rcases h with rfl | h
      · rcases List.mem_cons.1 hc with rfl | hc
        · exact hb
        · exact ih (hpieces ▸ List.mem_cons_self) hc
      · exact ih (hpieces ▸ List.mem_cons_of_mem first h) hc

theorem cutFirst_append_left (h : ∀ c ∈ before, sep c = false) :
    cutFirst sep (before ++ cs) =
      (cutFirst sep cs).map fun parts => (before ++ parts.1, parts.2) := by
  induction before with
  | nil => simp
  | cons b before ih =>
    rw [List.forall_mem_cons] at h
    rw [List.cons_append, cutFirst, ih h.2]
    cases cutFirst sep cs <;> simp [h.1]

theorem cutFirst_append_cons (h : ∀ c ∈ before, sep c = false) (hc : sep c = true) :
    cutFirst sep (before ++ c :: after) = some (before, after) := by
  simp [cutFirst_append_left h, cutFirst, hc]

theorem cutFirst_of_forall (h : ∀ c ∈ cs, sep c = false) : cutFirst sep cs = none := by
  induction cs with
  | nil => rfl
  | cons c cs ih =>
    rw [List.forall_mem_cons] at h
    simp [cutFirst, h.1, ih h.2]

theorem cutFirst_eq_some : cutFirst sep cs = some (before, after) ↔
    ∃ c, cs = before ++ c :: after ∧ sep c = true ∧ ∀ b ∈ before, sep b = false := by
  constructor
  · intro h
    induction cs generalizing before with
    | nil => cases h
    | cons c cs ih =>
      cases hc : sep c with
      | true =>
        simp only [cutFirst, hc, if_true] at h
        cases h
        exact ⟨c, rfl, hc, List.forall_mem_nil _⟩
      | false =>
        simp only [cutFirst, hc, Bool.false_eq_true, if_false] at h
        obtain ⟨⟨front, back⟩, hcut, heq⟩ := Option.map_eq_some_iff.1 h
        cases heq
        obtain ⟨d, rfl, hd, hfront⟩ := ih hcut
        exact ⟨d, rfl, hd, List.forall_mem_cons.2 ⟨hc, hfront⟩⟩
  · rintro ⟨c, rfl, hc, hbefore⟩
    exact cutFirst_append_cons hbefore hc

theorem cutFirst_eq_none : cutFirst sep cs = none ↔ ∀ c ∈ cs, sep c = false := by
  refine ⟨fun h => ?_, cutFirst_of_forall⟩
  induction cs with
  | nil => exact List.forall_mem_nil _
  | cons c cs ih =>
    cases hc : sep c with
    | true => simp [cutFirst, hc] at h
    | false =>
      simp only [cutFirst, hc, Bool.false_eq_true, if_false, Option.map_eq_none_iff] at h
      exact List.forall_mem_cons.2 ⟨hc, ih h⟩

theorem cutFirst_append_right (h : ∀ c ∈ after, sep c = false) :
    cutFirst sep (cs ++ after) =
      (cutFirst sep cs).map fun parts => (parts.1, parts.2 ++ after) := by
  induction cs with
  | nil => exact cutFirst_of_forall h
  | cons c cs ih =>
    rw [List.cons_append, cutFirst, cutFirst, ih]
    cases sep c <;> cases cutFirst sep cs <;> rfl

theorem trimEnd_append_of_forall (h : ∀ c ∈ after, p c = true) :
    trimEnd p (before ++ after) = trimEnd p before := by
  have hreverse : ∀ c ∈ after.reverse, p c = true := fun c hc => h c (List.mem_reverse.1 hc)
  simp [trimEnd, List.dropWhile_append_of_pos hreverse]

theorem trimEnd_append {x : Char} (hx : x ∈ after) (h : p x = false) :
    trimEnd p (before ++ after) = before ++ trimEnd p after := by
  have hrest : ¬(after.reverse.dropWhile p).isEmpty := by
    intro hempty
    rw [List.isEmpty_iff, List.dropWhile_eq_nil_iff] at hempty
    simp [hempty x (List.mem_reverse.2 hx)] at h
  simp [trimEnd, List.dropWhile_append, hrest]

theorem trimEnd_concat (cs : List Char) (h : p c = false) : trimEnd p (cs ++ [c]) = cs ++ [c] := by
  simp [trimEnd, h]

theorem trimEnd_cons (cs : List Char) (h : p c = false) :
    trimEnd p (c :: cs) = c :: trimEnd p cs := by
  simp only [trimEnd, List.reverse_cons, List.dropWhile_append]
  split
  · next hcs =>
    rw [List.isEmpty_iff] at hcs
    simp [hcs, h]
  · simp

/-- What stands before a character that is not of the class is kept if it holds none either. -/
theorem trimBoth_append_cons (hbefore : ∀ c ∈ before, p c = false) (h : p c = false) :
    trimBoth p (before ++ c :: after) = before ++ c :: trimEnd p after := by
  have hstart : trimStart p (before ++ c :: after) = before ++ c :: after := by
    cases before with
    | nil => simp [trimStart, h]
    | cons b before => simp [trimStart, hbefore b List.mem_cons_self]
  rw [trimBoth, hstart, trimEnd_append List.mem_cons_self h, trimEnd_cons after h]

theorem trimBoth_append_of_forall (hbefore : ∀ c ∈ before, p c = true)
    (hafter : ∀ c ∈ after, p c = true) :
    trimBoth p (before ++ (cs ++ after)) = trimBoth p cs := by
  unfold trimBoth trimStart
  rw [List.dropWhile_append_of_pos hbefore, List.dropWhile_append]
  split
  · next hcs =>
    rw [List.isEmpty_iff] at hcs
    have hnone : after.dropWhile p = [] := List.dropWhile_eq_nil_iff.2 hafter
    rw [hcs, hnone]
  · exact trimEnd_append_of_forall hafter

theorem trimStart_of_forall (h : ∀ c ∈ cs, p c = false) : trimStart p cs = cs := by
  cases cs with
  | nil => rfl
  | cons c cs => simp [trimStart, h c]

theorem trimEnd_of_forall (h : ∀ c ∈ cs, p c = false) : trimEnd p cs = cs := by
  have hreverse : cs.reverse.dropWhile p = cs.reverse :=
    trimStart_of_forall fun c hc => h c (List.mem_reverse.1 hc)
  rw [trimEnd, hreverse, List.reverse_reverse]

theorem trimBoth_of_forall (h : ∀ c ∈ cs, p c = false) : trimBoth p cs = cs := by
  rw [trimBoth, trimStart_of_forall h, trimEnd_of_forall h]

theorem trimBoth_of_ends (hhead : ∀ c, cs.head? = some c → p c = false)
    (hlast : ∀ c, cs.getLast? = some c → p c = false) : trimBoth p cs = cs := by
  have hdrop {cs : List Char} (h : ∀ c, cs.head? = some c → p c = false) : cs.dropWhile p = cs := by
    cases cs with
    | nil => rfl
    | cons c cs => simp [h c rfl]
  have hend : cs.reverse.dropWhile p = cs.reverse := by
    refine hdrop fun c hc => hlast c ?_
    rwa [List.head?_reverse] at hc
  rw [trimBoth, trimStart, hdrop hhead, trimEnd, hend, List.reverse_reverse]

/-- Quotes, or whatever else is not of the class, are where trimming stops. -/
theorem trimBoth_between {a b : Char} (ha : p a = false) (hb : p b = false) :
    trimBoth p (a :: (cs ++ [b])) = a :: (cs ++ [b]) := by
  have hstart : trimStart p (a :: (cs ++ [b])) = a :: (cs ++ [b]) := by simp [trimStart, ha]
  rw [trimBoth, hstart]
  exact trimEnd_concat (a :: cs) hb

theorem exists_trimEnd_append (p : Char → Bool) (cs : List Char) :
    ∃ removed, cs = trimEnd p cs ++ removed ∧ ∀ c ∈ removed, p c = true := by
  refine ⟨(cs.reverse.takeWhile p).reverse, ?_, fun c hc => ?_⟩
  · rw [trimEnd, ← List.reverse_append, List.takeWhile_append_dropWhile, List.reverse_reverse]
  · exact List.mem_takeWhile_imp (List.mem_reverse.1 hc)

theorem exists_trimBoth_append (p : Char → Bool) (cs : List Char) : ∃ before after,
    cs = before ++ (trimBoth p cs ++ after) ∧ (∀ c ∈ before, p c = true) ∧
      ∀ c ∈ after, p c = true := by
  obtain ⟨after, hafter, hall⟩ := exists_trimEnd_append p (trimStart p cs)
  refine ⟨cs.takeWhile p, after, ?_, fun c => List.mem_takeWhile_imp, hall⟩
  rw [trimBoth, ← hafter, trimStart, List.takeWhile_append_dropWhile]

theorem trimBoth_trimBoth (p : Char → Bool) (cs : List Char) :
    trimBoth p (trimBoth p cs) = trimBoth p cs := by
  obtain ⟨before, after, hcs, hbefore, hafter⟩ := exists_trimBoth_append p cs
  calc trimBoth p (trimBoth p cs)
      = trimBoth p (before ++ (trimBoth p cs ++ after)) :=
        (trimBoth_append_of_forall hbefore hafter).symm
    _ = trimBoth p cs := by rw [← hcs]

theorem getLast?_trimBoth (h : (trimBoth p cs).getLast? = some c) : p c = false := by
  unfold trimBoth trimEnd at h
  rw [List.getLast?_reverse] at h
  have hhead := List.head?_dropWhile_not p (trimStart p cs).reverse
  rw [h] at hhead
  simpa using hhead

theorem mem_trimBoth (h : c ∈ cs) (hc : p c = false) : c ∈ trimBoth p cs := by
  obtain ⟨before, after, hcs, hbefore, hafter⟩ := exists_trimBoth_append p cs
  rw [hcs, List.mem_append, List.mem_append] at h
  rcases h with h | h | h
  · simp [hbefore c h] at hc
  · exact h
  · simp [hafter c h] at hc

end CloudDirector.Text
