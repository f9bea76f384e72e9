import CloudDirector.Proofs.Text.Quoted
import CloudDirector.Text.Description
import Mathlib.Data.List.Forall2
import Mathlib.Data.List.Infix

/-!
# Descriptions are told apart

A description says where it ends, so that values described behind one another are told apart one by
one: descriptions of one type with the same fields are equal just if all their fields are.
-/
namespace CloudDirector.Text

/-- Two texts are equal whenever one text begins with both. -/
def Separate (s t : String) : Prop := ∀ rest rest' : String, s ++ rest = t ++ rest' → s = t

/-- A value can be told from every text that begins with its description. -/
def PrefixFree {α : Type} (describe : α → String) : Prop :=
  ∀ {a b : α} {rest rest' : String}, describe a ++ rest = describe b ++ rest' → a = b

namespace PrefixFree

variable {α : Type} {describe : α → String}

theorem separate (h : PrefixFree describe) (a b : α) : Separate (describe a) (describe b) := by
  intro rest rest' heq
  rw [h heq]

theorem injective (h : PrefixFree describe) : Function.Injective describe := by
  intro a b heq
  exact h (congrArg (· ++ "") heq)

end PrefixFree

namespace Separate

variable {s t s' t' : String}

theorem refl (s : String) : Separate s s := fun _ _ _ => rfl

/-- Behind separate texts, what follows is equal too. -/
theorem eq_and_eq (h : Separate s t) (heq : s ++ s' = t ++ t') : s = t ∧ s' = t' := by
  obtain rfl := h _ _ heq
  exact ⟨rfl, (String.append_right_inj s).1 heq⟩

theorem append (h : Separate s t) (h' : Separate s' t') : Separate (s ++ s') (t ++ t') := by
  intro rest rest' heq
  rw [String.append_assoc, String.append_assoc] at heq
  obtain ⟨rfl, hrest⟩ := h.eq_and_eq heq
  rw [h' _ _ hrest]

theorem of_length_eq (h : s.toList.length = t.toList.length) : Separate s t := by
  intro rest rest' heq
  have hchars := congrArg String.toList heq
  rw [String.toList_append, String.toList_append] at hchars
  exact String.toList_injective (List.append_inj_left hchars h)

end Separate

/-- Texts differ that begin with words of which none begins the other. -/
theorem append_ne_append {s t : String} (h : ¬ s.toList <+: t.toList) (h' : ¬ t.toList <+: s.toList)
    (x y : String) : s ++ x ≠ t ++ y := by
  intro heq
  have hs : s.toList <+: (s ++ x).toList := by simp
  have ht : t.toList <+: (s ++ x).toList := by simp [heq]
  rcases List.prefix_or_prefix_of_prefix hs ht with hst | hts
  · exact h hst
  · exact h' hts

theorem toList_quoted_append (s rest : String) : (quoted s ++ rest).toList =
    Char.ofNat 0x22 :: (s.toList.flatMap quoteChar ++ Char.ofNat 0x22 :: rest.toList) := by
  simp [quoted]

theorem prefixFree_quoted : PrefixFree quoted := by
  intro s t rest rest' heq
  have hchars := congrArg String.toList heq
  rw [toList_quoted_append, toList_quoted_append] at hchars
  exact String.toList_injective (flatMap_quoteChar_inj (List.cons.inj hchars).2)

theorem prefixFree_describedBool : PrefixFree describedBool := by
  intro a b rest rest' heq
  cases a <;> cases b
  case true.true | false.false => rfl
  all_goals exact absurd heq (append_ne_append (by decide) (by decide) rest rest')

theorem describedOption_some_append (s rest : String) :
    describedOption (some s) ++ rest = "Some(" ++ (s ++ (")" ++ rest)) := by
  simp [describedOption, String.append_assoc]

theorem describedOption_inj {d d' : Option String} {rest rest' : String}
    (h : ∀ s ∈ d, ∀ t ∈ d', Separate s t)
    (heq : describedOption d ++ rest = describedOption d' ++ rest') : d = d' := by
  have hnone (s x y : String) : describedOption none ++ x ≠ describedOption (some s) ++ y := by
    rw [describedOption_some_append]
    exact append_ne_append (by decide) (by decide) _ _
  cases d with
  | none =>
    cases d' with
    | none => rfl
    | some t => exact absurd heq (hnone t _ _)
  | some s =>
    cases d' with
    | none => exact absurd heq.symm (hnone s _ _)
    | some t =>
      rw [describedOption_some_append, describedOption_some_append] at heq
      obtain ⟨rfl, -⟩ := (h s rfl t rfl).eq_and_eq ((String.append_right_inj _).1 heq)
      rfl

theorem quotedOption_eq (o : Option String) : quotedOption o = describedOption (o.map quoted) := by
  cases o <;> rfl

theorem prefixFree_quotedOption : PrefixFree quotedOption := by
  intro o o' rest rest' heq
  rw [quotedOption_eq, quotedOption_eq] at heq
  have hmap : o.map quoted = o'.map quoted := by
    refine describedOption_inj (fun s hs t ht => ?_) heq
    obtain ⟨a, -, rfl⟩ := Option.map_eq_some_iff.1 hs
    obtain ⟨b, -, rfl⟩ := Option.map_eq_some_iff.1 ht
    exact prefixFree_quoted.separate a b
  exact Option.map_injective prefixFree_quoted.injective hmap

/-- Equally many texts between separators are told apart. -/
theorem intercalate_inj {sep rest rest' : String} {texts texts' : List String}
    (h : List.Forall₂ Separate texts texts')
    (heq : String.intercalate sep texts ++ rest = String.intercalate sep texts' ++ rest') :
    texts = texts' := by
  induction h with
  | nil => rfl
  | cons hfirst hmore ih =>
    cases hmore with
    | nil =>
      rw [String.intercalate_singleton, String.intercalate_singleton] at heq
      rw [hfirst _ _ heq]
    | cons hsecond hmore =>
      simp only [String.intercalate_cons_cons, String.append_assoc] at heq
      obtain ⟨rfl, htail⟩ := hfirst.eq_and_eq heq
      rw [ih (by simpa only [String.append_assoc] using (String.append_right_inj sep).1 htail)]

/-- A quoted text and what follows it in a list: the next one, or the end. -/
theorem quotedList_cons (t : String) (ts : List String) (rest : String) :
    String.intercalate ", " ((t :: ts).map quoted) ++ ("]" ++ rest) =
      quoted t ++ (if ts = [] then "]" ++ rest
        else ", " ++ (String.intercalate ", " (ts.map quoted) ++ ("]" ++ rest))) := by
  cases ts with
  | nil => rw [List.map_singleton, String.intercalate_singleton, if_pos rfl]
  | cons t' ts =>
    rw [List.map_cons, List.map_cons, String.intercalate_cons_cons, if_neg (List.cons_ne_nil _ _),
      String.append_assoc, String.append_assoc]

theorem close_ne_quoted (t x y : String) : "]" ++ x ≠ quoted t ++ y := by
  intro heq
  have hchars := congrArg String.toList heq
  rw [toList_quoted_append] at hchars
  simp at hchars

theorem prefixFree_describedTexts : PrefixFree describedTexts := by
  intro ts ts' rest rest' heq
  simp only [describedTexts, String.append_assoc, String.append_right_inj] at heq
  induction ts generalizing ts' with
  | nil =>
    cases ts' with
    | nil => rfl
    | cons t' ts' =>
      rw [quotedList_cons, List.map_nil, String.intercalate_nil, String.empty_append] at heq
      exact absurd heq (close_ne_quoted _ _ _)
  | cons t ts ih =>
    cases ts' with
    | nil =>
      rw [quotedList_cons, List.map_nil, String.intercalate_nil, String.empty_append] at heq
      exact absurd heq.symm (close_ne_quoted _ _ _)
    | cons t' ts' =>
      rw [quotedList_cons, quotedList_cons] at heq
      obtain ⟨hfirst, htail⟩ := (prefixFree_quoted.separate t t').eq_and_eq heq
      rw [prefixFree_quoted.injective hfirst]
      split at htail <;> split at htail
      case isTrue.isTrue hts hts' => rw [hts, hts']
      case isFalse.isFalse => rw [ih ((String.append_right_inj _).1 htail)]
      case isTrue.isFalse => exact absurd htail (append_ne_append (by decide) (by decide) _ _)
      case isFalse.isTrue => exact absurd htail.symm (append_ne_append (by decide) (by decide) _ _)

/-- The same fields, each described by separate texts. -/
def SameFields : List (String × String) → List (String × String) → Prop :=
  List.Forall₂ fun f g => f.1 = g.1 ∧ Separate f.2 g.2

variable {name rest rest' : String} {fields fields' : List (String × String)}

/-- A field as it stands between the others. -/
def fieldText (f : String × String) : String := f.1 ++ ": " ++ f.2

theorem SameFields.nil : SameFields [] [] := List.Forall₂.nil

theorem SameFields.cons {value value' : String} (name : String) (h : Separate value value')
    (hmore : SameFields fields fields') :
    SameFields ((name, value) :: fields) ((name, value') :: fields') :=
  List.Forall₂.cons ⟨rfl, h⟩ hmore

theorem SameFields.separate (h : SameFields fields fields') :
    List.Forall₂ Separate (fields.map fieldText) (fields'.map fieldText) := by
  induction h with
  | nil => exact .nil
  | cons hfield _ ih =>
    obtain ⟨hname, hvalue⟩ := hfield
    rw [List.map_cons, List.map_cons, fieldText, fieldText, hname]
    exact .cons ((Separate.refl _).append hvalue) ih

theorem SameFields.eq_of_map (h : SameFields fields fields')
    (heq : fields.map fieldText = fields'.map fieldText) : fields = fields' := by
  induction h with
  | nil => rfl
  | @cons f g _ _ hfield _ ih =>
    obtain ⟨name, value⟩ := f
    obtain ⟨rfl, -⟩ := hfield
    obtain ⟨hfirst, hmore⟩ := List.cons.inj heq
    have hvalue : value = g.2 := (String.append_right_inj _).1 hfirst
    rw [ih hmore, hvalue]

def inBraces (name : String) (parts : List String) : String :=
  name ++ " " ++ (String.singleton (Char.ofNat 0x7b) ++ " " ++
    String.intercalate ", " parts ++ " " ++ String.singleton (Char.ofNat 0x7d))

theorem described_eq_inBraces : described name fields = inBraces name (fields.map fieldText) := rfl

theorem describedPartly_eq_inBraces :
    describedPartly name fields = inBraces name (fields.map fieldText ++ [".."]) := rfl

theorem inBraces_inj {parts parts' : List String} (h : List.Forall₂ Separate parts parts')
    (heq : inBraces name parts ++ rest = inBraces name parts' ++ rest') : parts = parts' := by
  simp only [inBraces, String.append_assoc, String.append_right_inj] at heq
  exact intercalate_inj h heq

theorem described_inj (h : SameFields fields fields')
    (heq : described name fields ++ rest = described name fields' ++ rest') : fields = fields' := by
  rw [described_eq_inBraces, described_eq_inBraces] at heq
  exact h.eq_of_map (inBraces_inj h.separate heq)

theorem describedPartly_inj (h : SameFields fields fields')
    (heq : describedPartly name fields ++ rest = describedPartly name fields' ++ rest') :
    fields = fields' := by
  have hparts := List.rel_append h.separate (List.Forall₂.cons (Separate.refl "..") .nil)
  rw [describedPartly_eq_inBraces, describedPartly_eq_inBraces] at heq
  exact h.eq_of_map (List.append_cancel_right (inBraces_inj hparts heq))

end CloudDirector.Text
