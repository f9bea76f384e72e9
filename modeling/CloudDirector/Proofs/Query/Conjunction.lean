import CloudDirector.Proofs.Text.Cutting
import CloudDirector.Query.Events
import Mathlib.Logic.Relation

/-!
# What an equality filter says

The terms of an equality filter stand between semicolons, with their values as they are. So a
filter says what was asked just if no value has a semicolon, and a semicolon before a further term
is all by which lists of terms can have one text: what is then a term of its own in one of them is
the end of a value in the other.
-/
namespace CloudDirector.Query
open Text

/-- A name and the value that is asked for. -/
abbrev Term := String × String

/-- Letters, digits and underscores, no digit first. -/
def isIdentifier : List Char → Bool
  | [] => false
  | c :: cs => (c.isAlpha || c == '_') && cs.all fun c => c.isAlphanum || c == '_'

def Named (terms : List Term) : Prop := ∀ t ∈ terms, isIdentifier t.1.toList = true

instance (terms : List Term) : Decidable (Named terms) :=
  inferInstanceAs (Decidable (∀ t ∈ terms, isIdentifier t.1.toList = true))

def HoldsTerm (value : String) : Prop :=
  ∃ before name after : List Char, value.toList = before ++ ';' :: (name ++ '=' :: '=' :: after) ∧
    isIdentifier name = true

/-- No value has a further term. -/
def Plain (terms : List Term) : Prop := ∀ t ∈ terms, ¬ HoldsTerm t.2

/-- A value is cut before a further term, which becomes one of its own. -/
inductive Cuts : List Term → List Term → Prop
  | value {before after : List Term} {name value name' value' : String}
    (named : isIdentifier name'.toList = true) :
    Cuts (before ++ (name, value ++ ";" ++ name' ++ "==" ++ value') :: after)
      (before ++ (name, value) :: (name', value') :: after)

/-- A name and a value around the first equals sign, which has to be doubled. -/
def termOf? (conjunct : List Char) : Option Term :=
  match cutFirst (· == '=') conjunct with
  | some (name, '=' :: value) => some (String.ofList name, String.ofList value)
  | _ => none

/-- What a filter says: the terms between its semicolons. -/
def conjuncts (filter : String) : List Term :=
  (pieces (· == ';') filter.toList).filterMap termOf?

def termText (t : Term) : List Char := t.1.toList ++ '=' :: '=' :: t.2.toList

/-- The text of terms, each behind a semicolon. -/
def furtherText (terms : List Term) : List Char := terms.flatMap fun t => ';' :: termText t

variable {terms others : List Term} {t : Term}

@[simp] theorem furtherText_nil : furtherText [] = [] := rfl

@[simp] theorem furtherText_cons (t : Term) (terms : List Term) :
    furtherText (t :: terms) = ';' :: (termText t ++ furtherText terms) := rfl

@[simp] theorem furtherText_append (terms others : List Term) :
    furtherText (terms ++ others) = furtherText terms ++ furtherText others :=
  List.flatMap_append

theorem toList_equalityFilter (t : Term) (terms : List Term) :
    (equalityFilter (t :: terms)).toList = termText t ++ furtherText terms := by
  induction terms generalizing t with
  | nil => simp [equalityFilter, termText]
  | cons u terms ih =>
    have hnext := ih u
    unfold equalityFilter at hnext ⊢
    rw [List.map_cons] at hnext
    rw [List.map_cons, List.map_cons, String.intercalate_cons_cons, furtherText_cons, ← hnext]
    simp [termText]

theorem equalityFilter_eq_iff_furtherText :
    equalityFilter terms = equalityFilter others ↔ furtherText terms = furtherText others := by
  have hempty (t : Term) (terms : List Term) :
      equalityFilter (t :: terms) ≠ equalityFilter [] := by
    intro h
    have htext := (toList_equalityFilter t terms).symm.trans (congrArg String.toList h)
    simp [termText, equalityFilter] at htext
  cases terms with
  | nil =>
    cases others with
    | nil => simp
    | cons u others => simpa using (hempty u others).symm
  | cons t terms =>
    cases others with
    | nil => simpa using hempty t terms
    | cons u others =>
      rw [← String.toList_inj, toList_equalityFilter, toList_equalityFilter, furtherText_cons,
        furtherText_cons, List.cons_inj_right]

theorem Cuts.furtherText_eq (h : Cuts terms others) : furtherText terms = furtherText others := by
  cases h
  simp [termText]

theorem isIdentifier_chars {name : List Char} (h : isIdentifier name = true) :
    ∀ c ∈ name, (c == '=') = false ∧ c ≠ ';' := by
  have hchar {c : Char} (hc : c.isAlphanum = true ∨ c = '_') : (c == '=') = false ∧ c ≠ ';' := by
    rw [beq_eq_false_iff_ne]
    constructor <;> rintro rfl <;> revert hc <;> decide
  cases name with
  | nil => cases h
  | cons c cs =>
    simp only [isIdentifier, Bool.and_eq_true, Bool.or_eq_true, beq_iff_eq, List.all_eq_true] at h
    refine List.forall_mem_cons.2 ⟨hchar ?_, fun d hd => hchar (h.2 d hd)⟩
    rcases h.1 with hc | hc
    · exact .inl (by simp [Char.isAlphanum, hc])
    · exact .inr hc

theorem termText_inj {name name' value value' rest rest' : List Char}
    (hname : isIdentifier name = true) (hname' : isIdentifier name' = true)
    (h : name ++ '=' :: '=' :: (value ++ rest) = name' ++ '=' :: '=' :: (value' ++ rest')) :
    name = name' ∧ value ++ rest = value' ++ rest' := by
  have hcut {name : List Char} (hname : isIdentifier name = true) (tail : List Char) :
      cutFirst (· == '=') (name ++ '=' :: tail) = some (name, tail) :=
    cutFirst_append_cons (fun c hc => (isIdentifier_chars hname c hc).1) rfl
  have hsame := (hcut hname _).symm.trans ((congrArg _ h).trans (hcut hname' _))
  simpa using hsame

/-- What a value has before the terms behind it, and another one does not, holds a term. -/
theorem holdsTerm_of_append {value : String} {before x : List Char} (hterms : Named terms)
    (hx : x ≠ []) (hvalue : value.toList = before ++ x)
    (htext : furtherText terms = x ++ furtherText others) : HoldsTerm value := by
  cases terms with
  | nil =>
    obtain ⟨hnil, -⟩ := List.append_eq_nil_iff.1 htext.symm
    exact absurd hnil hx
  | cons t terms =>
    have hname : isIdentifier t.1.toList = true := hterms t List.mem_cons_self
    obtain ⟨c, y, rfl⟩ := List.exists_cons_of_ne_nil hx
    have hhead : termText t ++ furtherText terms = y ++ furtherText others ∧ ';' = c := by
      simpa [and_comm] using htext
    obtain ⟨htail, rfl⟩ := hhead
    have hsplit : (t.1.toList ++ ['=', '=']) ++ (t.2.toList ++ furtherText terms) =
        y ++ furtherText others := by
      rw [← htail]
      simp [termText]
    rcases List.append_eq_append_iff.1 hsplit with ⟨after, rfl, -⟩ | ⟨missing, hfront, hrest⟩
    · exact ⟨before, t.1.toList, after, by simp [hvalue], hname⟩
    -- What is missing of the name would begin with a semicolon, like all further text.
    cases missing with
    | nil =>
      refine ⟨before, t.1.toList, [], ?_, hname⟩
      rw [hvalue, ← List.append_nil y, ← hfront]
    | cons c missing =>
      exfalso
      cases others with
      | nil => cases hrest
      | cons u others =>
        obtain rfl : ';' = c := (List.cons.inj hrest).1
        have hmem : ';' ∈ t.1.toList ++ ['=', '='] := by simp [hfront]
        rcases List.mem_append.1 hmem with hmem | hmem
        · exact (isIdentifier_chars hname _ hmem).2 rfl
        · revert hmem
          decide

/-- Lists whose values hold no further term are told apart. The induction is on both lists. -/
theorem Plain.furtherText_inj (hterms : Named terms) (hothers : Named others)
    (hplain : Plain terms) (hplain' : Plain others)
    (h : furtherText terms = furtherText others) : terms = others := by
  induction terms generalizing others with
  | nil =>
    cases others with
    | nil => rfl
    | cons u others => cases h
  | cons t terms ih =>
    cases others with
    | nil => cases h
    | cons u others =>
      obtain ⟨ht, hterms⟩ := List.forall_mem_cons.1 hterms
      obtain ⟨hu, hothers⟩ := List.forall_mem_cons.1 hothers
      obtain ⟨hvalue, hplain⟩ := List.forall_mem_cons.1 hplain
      obtain ⟨hvalue', hplain'⟩ := List.forall_mem_cons.1 hplain'
      obtain ⟨hname, hrest⟩ := termText_inj ht hu (by simpa [termText] using h)
      have hsame : t.2.toList = u.2.toList ∧ furtherText terms = furtherText others := by
        rcases List.append_eq_append_iff.1 hrest with ⟨x, hu2, htext⟩ | ⟨x, ht2, htext⟩
        · by_cases hx : x = []
          · subst hx
            simpa [hu2] using htext
          · exact absurd (holdsTerm_of_append hterms hx hu2 htext) hvalue'
        · by_cases hx : x = []
          · subst hx
            simpa [ht2] using htext.symm
          · exact absurd (holdsTerm_of_append hothers hx ht2 htext) hvalue
      have heq : t = u := Prod.ext (String.toList_injective hname) (String.toList_injective hsame.1)
      rw [heq, ih hterms hothers hplain hplain' hsame.2]

theorem Cuts.named (h : Cuts terms others) (hterms : Named terms) : Named others := by
  cases h with
  | value named =>
    simp only [Named, List.forall_mem_append, List.forall_mem_cons] at hterms ⊢
    exact ⟨hterms.1, hterms.2.1, named, hterms.2.2⟩

def valueLength (terms : List Term) : Nat := (terms.flatMap fun t => t.2.toList).length

theorem Cuts.valueLength_lt (h : Cuts terms others) : valueLength others < valueLength terms := by
  cases h
  have hsep : ";".toList.length = 1 ∧ "==".toList.length = 2 := by decide
  simp only [valueLength, List.flatMap_append, List.flatMap_cons, List.length_append,
    String.toList_append]
  omega

theorem exists_cuts_of_not_plain (h : ¬ Plain terms) : ∃ others, Cuts terms others := by
  simp only [Plain, not_forall, not_not] at h
  obtain ⟨⟨name, value⟩, hmem, before, name', after, hvalue, hname⟩ := h
  obtain ⟨front, back, rfl⟩ := List.append_of_mem hmem
  obtain rfl : value = String.ofList before ++ ";" ++ String.ofList name' ++ "==" ++
      String.ofList after := String.toList_injective (by simp [hvalue])
  exact ⟨_, .value (by simpa using hname)⟩

theorem reflTransGen_cuts (h : Relation.ReflTransGen Cuts terms others) (hterms : Named terms) :
    Named others ∧ furtherText terms = furtherText others := by
  induction h with
  | refl => exact ⟨hterms, rfl⟩
  | tail _ hcut ih => exact ⟨hcut.named ih.1, ih.2.trans hcut.furtherText_eq⟩

/-- Terms can be cut until no value holds a further one. The induction is on the text in values. -/
theorem exists_plain (terms : List Term) :
    ∃ others, Relation.ReflTransGen Cuts terms others ∧ Plain others := by
  induction hn : valueLength terms using Nat.strongRecOn generalizing terms with
  | ind n ih =>
    by_cases hplain : Plain terms
    · exact ⟨terms, .refl, hplain⟩
    · obtain ⟨next, hcut⟩ := exists_cuts_of_not_plain hplain
      obtain ⟨others, hothers, hplain⟩ := ih _ (hn ▸ hcut.valueLength_lt) next rfl
      exact ⟨others, .head hcut hothers, hplain⟩

theorem equalityFilter_eq_iff_join (hterms : Named terms) (hothers : Named others) :
    equalityFilter terms = equalityFilter others ↔
      Relation.Join (Relation.ReflTransGen Cuts) terms others := by
  rw [equalityFilter_eq_iff_furtherText]
  constructor
  · intro h
    obtain ⟨cut, hcut, hplain⟩ := exists_plain terms
    obtain ⟨cut', hcut', hplain'⟩ := exists_plain others
    obtain ⟨hnamed, htext⟩ := reflTransGen_cuts hcut hterms
    obtain ⟨hnamed', htext'⟩ := reflTransGen_cuts hcut' hothers
    have hsame : cut = cut' :=
      hplain.furtherText_inj hnamed hnamed' hplain' (htext.symm.trans (h.trans htext'))
    exact ⟨cut, hcut, hsame ▸ hcut'⟩
  · rintro ⟨cut, hcut, hcut'⟩
    exact (reflTransGen_cuts hcut hterms).2.trans (reflTransGen_cuts hcut' hothers).2.symm

theorem termOf?_termText (hname : isIdentifier t.1.toList = true) : termOf? (termText t) = some t := by
  unfold termOf? termText
  rw [cutFirst_append_cons (fun c hc => (isIdentifier_chars hname c hc).1) (by simp)]
  simp

theorem notMem_of_termOf? {conjunct : List Char} (h : termOf? conjunct = some t)
    (hconjunct : ';' ∉ conjunct) : ';' ∉ t.2.toList := by
  unfold termOf? at h
  split at h
  case h_1 name value hcut =>
    obtain ⟨c, rfl, -⟩ := cutFirst_eq_some.1 hcut
    cases h
    simp_all
  case h_2 => cases h

theorem pieces_furtherText {front : List Char} (hfront : ';' ∉ front)
    (hterms : ∀ t ∈ terms, ';' ∉ termText t) :
    pieces (· == ';') (front ++ furtherText terms) = front :: terms.map termText := by
  induction terms generalizing front with
  | nil =>
    rw [furtherText_nil, List.append_nil]
    exact pieces_of_forall (beq_eq_false_of_notMem hfront)
  | cons t terms ih =>
    obtain ⟨ht, hterms⟩ := List.forall_mem_cons.1 hterms
    rw [furtherText_cons, pieces_append_cons (by simp), ih ht hterms,
      pieces_of_forall (beq_eq_false_of_notMem hfront)]
    rfl

theorem filterMap_termText (hterms : Named terms) : (terms.map termText).filterMap termOf? = terms := by
  induction terms with
  | nil => rfl
  | cons t terms ih =>
    obtain ⟨ht, hterms⟩ := List.forall_mem_cons.1 hterms
    rw [List.map_cons, List.filterMap_cons_some (termOf?_termText ht), ih hterms]

theorem conjuncts_of_no_semicolon (hterms : Named terms) (h : ∀ t ∈ terms, ';' ∉ t.2.toList) :
    conjuncts (equalityFilter terms) = terms := by
  have htext : ∀ t ∈ terms, ';' ∉ termText t := by
    intro t ht hmem
    simp only [termText, List.mem_append, List.mem_cons] at hmem
    rcases hmem with hmem | hmem | hmem | hmem
    · exact (isIdentifier_chars (hterms t ht) _ hmem).2 rfl
    · exact absurd hmem (by decide)
    · exact absurd hmem (by decide)
    · exact h t ht hmem
  cases terms with
  | nil => decide
  | cons t terms =>
    obtain ⟨ht, htext⟩ := List.forall_mem_cons.1 htext
    unfold conjuncts
    rw [toList_equalityFilter, pieces_furtherText ht htext]
    exact filterMap_termText hterms

/-- A filter says what was asked just if no value has a semicolon. -/
theorem conjuncts_equalityFilter (hterms : Named terms) :
    conjuncts (equalityFilter terms) = terms ↔ ∀ t ∈ terms, ';' ∉ t.2.toList := by
  refine ⟨fun h t ht => ?_, conjuncts_of_no_semicolon hterms⟩
  rw [← h] at ht
  obtain ⟨conjunct, hmem, hread⟩ := List.mem_filterMap.1 ht
  refine notMem_of_termOf? hread fun hsep => ?_
  simpa using sep_of_mem_pieces hmem hsep

/-- Two lists of terms have one text just if they can be cut into the same terms, which no value
holds any more. -/
theorem equalityFilter_tells_apart (hterms : Named terms) (hothers : Named others) :
    (equalityFilter terms = equalityFilter others ↔
      Relation.Join (Relation.ReflTransGen Cuts) terms others) ∧
    (Plain terms → Plain others → (equalityFilter terms = equalityFilter others ↔ terms = others)) ∧
    (conjuncts (equalityFilter terms) = terms ↔ ∀ t ∈ terms, ';' ∉ t.2.toList) := by
  refine ⟨equalityFilter_eq_iff_join hterms hothers, fun hplain hplain' => ?_,
    conjuncts_equalityFilter hterms⟩
  rw [equalityFilter_eq_iff_furtherText]
  exact ⟨hplain.furtherText_inj hterms hothers hplain', fun h => congrArg furtherText h⟩

/-- An event of a type that holds a further term is looked up like one of another type. -/
theorem not_told_apart :
    Named [("eventType", "x;entity==y"), ("entity", "z")] ∧
    Named [("eventType", "x"), ("entity", "y;entity==z")] ∧
    [("eventType", "x;entity==y"), ("entity", "z")] ≠
      [("eventType", "x"), ("entity", "y;entity==z")] ∧
    eventQuery [("eventType", "x;entity==y"), ("entity", "z")] =
      eventQuery [("eventType", "x"), ("entity", "y;entity==z")] ∧
    conjuncts (equalityFilter [("eventType", "x"), ("entity", "y;entity==z")]) =
      [("eventType", "x"), ("entity", "y"), ("entity", "z")] := by
  have hterms : Named [("eventType", "x;entity==y"), ("entity", "z")] := by decide
  have hothers : Named [("eventType", "x"), ("entity", "y;entity==z")] := by decide
  obtain ⟨hiff, -⟩ := equalityFilter_tells_apart hterms hothers
  have hcut : Cuts [("eventType", "x;entity==y"), ("entity", "z")]
      [("eventType", "x"), ("entity", "y"), ("entity", "z")] :=
    @Cuts.value [] [("entity", "z")] "eventType" "x" "entity" "y" (by decide)
  have hcut' : Cuts [("eventType", "x"), ("entity", "y;entity==z")]
      [("eventType", "x"), ("entity", "y"), ("entity", "z")] :=
    @Cuts.value [("eventType", "x")] [] "entity" "y" "entity" "z" (by decide)
  have hsame := hiff.2 ⟨_, .single hcut, .single hcut'⟩
  refine ⟨hterms, hothers, by decide, ?_, by decide⟩
  unfold eventQuery withEqualities
  rw [hsame]

end CloudDirector.Query
