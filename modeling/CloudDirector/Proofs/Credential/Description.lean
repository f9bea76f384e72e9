import CloudDirector.Credential.Credentials
import CloudDirector.Proofs.Text.Description

/-!
# What descriptions of credentials show

A description of credentials is the same without their secrets: passwords, tokens and keys. All
else of their kind it shows, under as many marks of a provider as there are.
-/
namespace CloudDirector
open Text Signature

namespace Uuid

theorem length_text (u : Uuid) : u.text.toList.length = u.digits.length + 4 := by
  unfold text grouped
  rw [String.toList_ofList]
  simp only [List.length_append, List.length_cons, List.length_take, List.length_drop]
  omega

theorem text_injective : Function.Injective text := by
  intro u v h
  have hlength : u.digits.length = v.digits.length := by
    have htext := congrArg (·.toList.length) h
    simp only [length_text] at htext
    omega
  have hgroups := String.ofList_injective h
  simp only [grouped, List.append_assoc, List.cons_append] at hgroups
  obtain ⟨hfirst, hgroups⟩ := List.append_inj hgroups (by simp [hlength])
  obtain ⟨hsecond, hgroups⟩ := List.append_inj (List.cons.inj hgroups).2 (by simp [hlength])
  obtain ⟨hthird, hgroups⟩ := List.append_inj (List.cons.inj hgroups).2 (by simp [hlength])
  obtain ⟨hfourth, hgroups⟩ := List.append_inj (List.cons.inj hgroups).2 (by simp [hlength])
  have hlast := (List.cons.inj hgroups).2
  have hparts (ds : List Char) : ds = ds.take 8 ++ ((ds.drop 8).take 4 ++ ((ds.drop 12).take 4 ++
      ((ds.drop 16).take 4 ++ ds.drop 20))) := by
    have hdrop (n : Nat) : ds.drop n = (ds.drop n).take 4 ++ ds.drop (n + 4) := by
      rw [← List.drop_drop, List.take_append_drop]
    rw [← hdrop 16, ← hdrop 12, ← hdrop 8, List.take_append_drop]
  have hdigits : u.digits = v.digits := by
    rw [hparts u.digits, hparts v.digits, hfirst, hsecond, hthird, hfourth, hlast]
  exact congrArg mk hdigits

end Uuid

variable {rest rest' : String}

theorem BasicLogin.description_inj {a b : BasicLogin}
    (heq : a.description ++ rest = b.description ++ rest') : a.user = b.user ∧ a.org = b.org := by
  unfold description at heq
  have hfields := describedPartly_inj (.cons "user" (prefixFree_quoted.separate _ _)
    (.cons "org" (prefixFree_quoted.separate _ _) .nil)) heq
  simpa [prefixFree_quoted.injective.eq_iff] using hfields

theorem BearerLogin.description_inj {a b : BearerLogin}
    (heq : a.description ++ rest = b.description ++ rest') : a.org = b.org := by
  unfold description at heq
  have hfields := describedPartly_inj (.cons "org" (prefixFree_quoted.separate _ _) .nil) heq
  simpa [prefixFree_quoted.injective.eq_iff] using hfields

theorem SamlLogin.description_inj {a b : SamlLogin}
    (heq : a.description ++ rest = b.description ++ rest') : a.org = b.org := by
  unfold description at heq
  have hfields := describedPartly_inj (.cons "org" (prefixFree_quoted.separate _ _) .nil) heq
  simpa [prefixFree_quoted.injective.eq_iff] using hfields

theorem SignatureForm.prefixFree_name : PrefixFree name := by
  intro f g x y heq
  cases f <;> cases g
  case legacy.legacy | second.second => rfl
  all_goals exact absurd heq (append_ne_append (by decide) (by decide) x y)

def MultisiteLogin.HasIdentifiers (c : MultisiteLogin) : Prop :=
  c.site.digits.length = 32 ∧ c.org.digits.length = 32

theorem MultisiteLogin.description_inj {a b : MultisiteLogin} (ha : a.HasIdentifiers)
    (hb : b.HasIdentifiers) (heq : a.description ++ rest = b.description ++ rest') :
    a.site = b.site ∧ a.org = b.org ∧ a.user = b.user ∧ a.form = b.form := by
  have hsite : Separate a.site.text b.site.text :=
    .of_length_eq (by rw [Uuid.length_text, Uuid.length_text, ha.1, hb.1])
  have horg : Separate a.org.text b.org.text :=
    .of_length_eq (by rw [Uuid.length_text, Uuid.length_text, ha.2, hb.2])
  unfold description at heq
  have hfields := describedPartly_inj (.cons "site_id" hsite (.cons "org_id" horg
    (.cons "user" (prefixFree_quoted.separate _ _)
      (.cons "version" (SignatureForm.prefixFree_name.separate _ _) .nil)))) heq
  simpa [prefixFree_quoted.injective.eq_iff, Uuid.text_injective.eq_iff,
    SignatureForm.prefixFree_name.injective.eq_iff] using hfields

namespace Credentials

/-- The credentials without their secrets. Whether a token is signed is none. -/
def withoutSecrets : Credentials → Credentials
  | .basic c => .basic { c with password := "" }
  | .bearer c => .bearer { c with token := "" }
  | .saml c => .saml { c with token := "", signature := c.signature.map fun _ => "" }
  | .multisite c => .multisite { c with key := ⟨[]⟩ }
  | .custom c => .custom c
  | .provider inner => .provider inner.withoutSecrets

theorem description_withoutSecrets (c : Credentials) :
    c.withoutSecrets.description = c.description := by
  induction c with
  | provider inner ih =>
    unfold withoutSecrets description
    rw [ih]
  | _ => rfl

/-- Credentials are of one kind, and what their descriptions show of them is the same. -/
def ShowsSame : Credentials → Credentials → Prop
  | .basic a, .basic b => a.user = b.user ∧ a.org = b.org
  | .bearer a, .bearer b => a.org = b.org
  | .saml a, .saml b => a.org = b.org
  | .multisite a, .multisite b =>
    a.site = b.site ∧ a.org = b.org ∧ a.user = b.user ∧ a.form = b.form
  | .custom _, .custom _ => True
  | .provider a, .provider b => a.ShowsSame b
  | _, _ => False

def HasIdentifiers : Credentials → Prop
  | .multisite c => c.HasIdentifiers
  | .provider inner => inner.HasIdentifiers
  | _ => True

def kindName : Credentials → String
  | .basic _ => "BasicCredentials"
  | .bearer _ => "BearerCredentials"
  | .saml _ => "SignCredentials"
  | .multisite _ => "MultisiteCredentials"
  | .custom _ => "Custom"
  | .provider _ => "ProviderCredentials"

theorem exists_description_eq (c : Credentials) : ∃ more, c.description = c.kindName ++ more := by
  cases c with
  | custom c => exact ⟨"", rfl⟩
  | _ => exact ⟨_, String.append_assoc⟩

variable {c c' : Credentials}

theorem not_prefix_kindName (h : c.kindName ≠ c'.kindName) :
    ¬ c.kindName.toList <+: c'.kindName.toList := by
  revert h
  cases c <;> cases c' <;> dsimp only [kindName] <;> decide

/-- Descriptions show the kind of credentials first. -/
theorem kindName_eq (heq : c.description ++ rest = c'.description ++ rest') :
    c.kindName = c'.kindName := by
  obtain ⟨more, hc⟩ := c.exists_description_eq
  obtain ⟨more', hc'⟩ := c'.exists_description_eq
  rw [hc, hc', String.append_assoc, String.append_assoc] at heq
  by_contra hkind
  exact append_ne_append (not_prefix_kindName hkind) (not_prefix_kindName (Ne.symm hkind)) _ _ heq

theorem ShowsSame.description_eq (h : c.ShowsSame c') : c.description = c'.description := by
  induction c generalizing c' with
  | basic c =>
    cases c' with
    | basic c' =>
      unfold description BasicLogin.description
      rw [h.1, h.2]
    | _ => exact h.elim
  | bearer c =>
    cases c' with
    | bearer c' =>
      unfold description BearerLogin.description
      rw [show c.org = c'.org from h]
    | _ => exact h.elim
  | saml c =>
    cases c' with
    | saml c' =>
      unfold description SamlLogin.description
      rw [show c.org = c'.org from h]
    | _ => exact h.elim
  | multisite c =>
    cases c' with
    | multisite c' =>
      obtain ⟨hsite, horg, huser, hform⟩ := h
      unfold description MultisiteLogin.description
      rw [hsite, horg, huser, hform]
    | _ => exact h.elim
  | custom c =>
    cases c' with
    | custom c' => rfl
    | _ => exact h.elim
  | provider inner ih =>
    cases c' with
    | provider inner' =>
      unfold description
      rw [ih h]
    | _ => exact h.elim

/-- What follows two descriptions does not matter: they show the same if one text begins with both.
The induction is on the marks of a provider. -/
theorem showsSame_of_description (hc : c.HasIdentifiers) (hc' : c'.HasIdentifiers)
    (heq : c.description ++ rest = c'.description ++ rest') : c.ShowsSame c' := by
  have hkind := kindName_eq heq
  induction c generalizing c' rest rest' with
  | basic c =>
    cases c' with
    | basic c' => exact BasicLogin.description_inj heq
    | _ => simp [kindName] at hkind
  | bearer c =>
    cases c' with
    | bearer c' => exact BearerLogin.description_inj heq
    | _ => simp [kindName] at hkind
  | saml c =>
    cases c' with
    | saml c' => exact SamlLogin.description_inj heq
    | _ => simp [kindName] at hkind
  | multisite c =>
    cases c' with
    | multisite c' => exact MultisiteLogin.description_inj hc hc' heq
    | _ => simp [kindName] at hkind
  | custom c =>
    cases c' with
    | custom c' => exact trivial
    | _ => simp [kindName] at hkind
  | provider inner ih =>
    cases c' with
    | provider inner' =>
      have hinner {x y : String} (h : inner.description ++ x = inner'.description ++ y) :
          inner.ShowsSame inner' := ih hc (show inner'.HasIdentifiers from hc') h (kindName_eq h)
      have hseparate : Separate inner.description inner'.description :=
        fun _ _ h => (hinner h).description_eq
      unfold description at heq
      have hfields := described_inj (.cons "inner" hseparate .nil) heq
      have hdescription : inner.description = inner'.description := by simpa using hfields
      exact hinner (congrArg (· ++ "") hdescription)
    | _ => simp [kindName] at hkind

theorem description_eq_iff (hc : c.HasIdentifiers) (hc' : c'.HasIdentifiers) :
    c.description = c'.description ↔ c.ShowsSame c' := by
  constructor
  · intro heq
    exact showsSame_of_description hc hc' (congrArg (· ++ "") heq)
  · exact ShowsSame.description_eq

end Credentials

end CloudDirector
