import CloudDirector.Credential.Basic
import CloudDirector.Proofs.Encoding.Base64
import CloudDirector.Proofs.Text.Utf8

/-!
# When password logins are equal

Base64 tells all texts apart, so two logins send one header just if user, organization and password
are spelled alike behind one another. Where one of them ends is lost: it is the number of separators
inside that tells.
-/
namespace CloudDirector
open Text Encoding

/-- No two texts have one base64 text. -/
theorem base64Text_injective : Function.Injective base64Text := by
  intro s t h
  have hbytes : utf8 s.toList = utf8 t.toList := base64_injective (String.ofList_injective h)
  have hchars : s.toList = t.toList := by rw [← ofUtf8_utf8 s.toList, hbytes, ofUtf8_utf8]
  exact String.toList_injective hchars

/-- Texts that go on alike behind a separator end at the same one just if they hold equally many. -/
theorem append_cons_inj_of_count {sep : Char} {xs ys after after' : List Char}
    (hcount : xs.count sep = ys.count sep) (h : xs ++ sep :: after = ys ++ sep :: after') :
    xs = ys ∧ after = after' := by
  induction xs generalizing ys with
  | nil =>
    cases ys with
    | nil => exact ⟨rfl, (List.cons.inj h).2⟩
    | cons y ys =>
      obtain ⟨rfl, -⟩ := List.cons.inj h
      simp at hcount
  | cons x xs ih =>
    cases ys with
    | nil =>
      obtain ⟨rfl, -⟩ := List.cons.inj h
      simp at hcount
    | cons y ys =>
      obtain ⟨rfl, htail⟩ := List.cons.inj h
      rw [List.count_cons, List.count_cons, Nat.add_right_cancel_iff] at hcount
      obtain ⟨rfl, hafter⟩ := ih hcount htail
      exact ⟨rfl, hafter⟩

namespace BasicLogin

/-- What a login sends in base64. -/
def spelled (c : BasicLogin) : String := c.user ++ "@" ++ c.org ++ ":" ++ c.password

theorem toList_spelled (c : BasicLogin) : c.spelled.toList =
    c.user.toList ++ '@' :: (c.org.toList ++ ':' :: c.password.toList) := by
  simp [spelled]

/-- Logins are equal just if they are spelled alike. -/
theorem same_iff_spelled {a b : BasicLogin} : a.same b = true ↔ a.spelled = b.spelled := by
  rw [same, beq_iff_eq]
  constructor
  · intro h
    exact base64Text_injective (String.append_right_inj _ |>.1 h)
  · intro h
    exact congrArg ("Basic " ++ base64Text ·) h

/-- Logins are equal just if user, organization and password are the same text behind one another.
They have the same user, organization and password just if moreover the users hold equally many
`@`, and the organizations equally many `:`. -/
theorem parts_eq_iff_same (a b : BasicLogin) :
    (a.same b = true ↔ a.spelled = b.spelled) ∧
    (a.user = b.user ∧ a.org = b.org ∧ a.password = b.password ↔
      a.same b = true ∧ a.user.toList.count '@' = b.user.toList.count '@' ∧
        a.org.toList.count ':' = b.org.toList.count ':') := by
  refine ⟨same_iff_spelled, ?_, ?_⟩
  · rintro ⟨huser, horg, hpassword⟩
    have hspelled : a.spelled = b.spelled := by rw [spelled, huser, horg, hpassword, spelled]
    exact ⟨same_iff_spelled.2 hspelled, by rw [huser], by rw [horg]⟩
  · rintro ⟨hsame, hat, hcolon⟩
    have hchars := congrArg String.toList (same_iff_spelled.1 hsame)
    rw [toList_spelled, toList_spelled] at hchars
    obtain ⟨huser, hrest⟩ := append_cons_inj_of_count hat hchars
    obtain ⟨horg, hpassword⟩ := append_cons_inj_of_count hcolon hrest
    exact ⟨String.toList_injective huser, String.toList_injective horg,
      String.toList_injective hpassword⟩

/-- An `@` in the name of a user may as well be the one in front of the organization. -/
theorem same_across_users :
    (⟨"alice@acme", "east", "secret"⟩ : BasicLogin).same ⟨"alice", "acme@east", "secret"⟩ = true ∧
      ¬ ∀ a b : BasicLogin,
        a.same b = true ↔ a.user = b.user ∧ a.org = b.org ∧ a.password = b.password := by
  have hsame : (⟨"alice@acme", "east", "secret"⟩ : BasicLogin).same
      ⟨"alice", "acme@east", "secret"⟩ = true := same_iff_spelled.2 (by decide)
  refine ⟨hsame, fun h => ?_⟩
  have huser : "alice@acme" = "alice" := ((h _ _).1 hsame).1
  exact absurd huser (by decide)

end BasicLogin

end CloudDirector
