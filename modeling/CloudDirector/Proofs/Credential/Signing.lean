import CloudDirector.Client.Assembly
import CloudDirector.Proofs.Http.Validity

/-!
# What can go wrong with a signature

Credentials that have signed one request sign every other, unless the parts of their key do not
belong together: their key has been read, and the header that carries a signature differs from one
request to the next only in the signature, which is written in base64.
-/
namespace CloudDirector
open Text Encoding Http Time Signature

theorem isValueChar_base64Digit (n : Nat) : isValueChar (base64Digit n) = true := by
  have hsmall : ∀ m < 64, isValueChar (base64Digit m) = true := by decide
  by_cases hn : n < 64
  · exact hsmall n hn
  · have hslash : base64Digit n = '/' := by
      unfold base64Digit
      rw [if_neg (by omega), if_neg (by omega), if_neg (by omega), if_neg (by omega)]
    rw [hslash]
    rfl

theorem all_isValueChar_base64 (bytes : List UInt8) :
    (base64 bytes).all isValueChar = true := by
  have hpad : isValueChar '=' = true := rfl
  induction bytes using base64.induct with
  | case1 => rfl
  | case2 a => simp [base64, isValueChar_base64Digit, hpad]
  | case3 a b => simp [base64, isValueChar_base64Digit, hpad]
  | case4 a b c rest ih => simpa [base64, isValueChar_base64Digit] using ih

namespace Signature.PrivateKey

theorem isHeaderValue_of_sign {key : PrivateKey} {message signature : String}
    (h : key.sign message = .ok signature) : isHeaderValue signature = true := by
  unfold sign at h
  cases hkey : RsaKey.ofDer key.der with
  | error flaw => simp [hkey] at h
  | ok rsa =>
    cases hsign : rsa.sign (utf8 message.toList) with
    | none => simp [hkey, hsign] at h
    | some bytes =>
      simp only [hkey, hsign, Except.ok.injEq] at h
      rw [← h, isHeaderValue_ofList]
      exact all_isValueChar_base64 bytes

/-- A key that has signed can be read, so only its parts may be at fault. -/
theorem sign_again {key : PrivateKey} {message signature : String}
    (h : key.sign message = .ok signature) (other : String) :
    (∃ signature, key.sign other = .ok signature) ∨ key.sign other = .error .parts := by
  unfold sign at h ⊢
  cases hkey : RsaKey.ofDer key.der with
  | error flaw => simp [hkey] at h
  | ok rsa =>
    dsimp only
    cases rsa.sign (utf8 other.toList) with
    | none => exact .inr rfl
    | some bytes => exact .inl ⟨_, rfl⟩

end Signature.PrivateKey

namespace MultisiteLogin

theorem isHeaderValue_headerWith {c : MultisiteLogin} {signature other : String}
    (h : isHeaderValue (c.headerWith signature) = true) (hother : isHeaderValue other = true) :
    isHeaderValue (c.headerWith other) = true := by
  unfold headerWith at h ⊢
  cases hform : c.form with
  | legacy =>
    rw [hform] at h
    simp only [isHeaderValue_append, Bool.and_eq_true] at h ⊢
    exact ⟨⟨⟨h.1.1.1, hother⟩, h.1.2⟩, h.2⟩
  | second =>
    rw [hform] at h
    simp only [isHeaderValue_append, Bool.and_eq_true] at h ⊢
    exact ⟨⟨⟨h.1.1.1, hother⟩, h.1.2⟩, h.2⟩

theorem sign_again {c : MultisiteLogin} {now : Instant} {r signed : Request}
    (h : c.sign now r = .ok signed) (later : Instant) (other : Request) :
    (∃ signed, c.sign later other = .ok signed) ∨
      c.sign later other = .error (.signing (.sign .parts)) := by
  obtain ⟨value, hvalue, h⟩ := Result.bind_eq_ok.1 h
  have hvalid : isHeaderValue value = true := by
    split at h
    · assumption
    · cases h
  unfold header at hvalue
  cases hsign : c.key.sign ((partsOf now r).text c.form) with
  | error flaw => simp [hsign] at hvalue
  | ok signature =>
    simp only [hsign, Except.ok.injEq] at hvalue
    unfold sign header
    rcases PrivateKey.sign_again hsign ((partsOf later other).text c.form) with
      ⟨again, hagain⟩ | hparts
    · have hother : isHeaderValue (c.headerWith again) = true :=
        isHeaderValue_headerWith (hvalue ▸ hvalid) (PrivateKey.isHeaderValue_of_sign hagain)
      rw [hagain]
      exact .inl ⟨_, if_pos hother⟩
    · rw [hparts]
      exact .inr rfl

end MultisiteLogin

namespace Credentials

/-- Credentials have signed a request, if they are of the kind that signs. -/
def HaveSigned (c : Credentials) : Prop := ∃ now r signed, c.sign now r = .ok signed

theorem HaveSigned.again {c : Credentials} (h : c.HaveSigned) (later : Instant) (other : Request) :
    (∃ signed, c.sign later other = .ok signed) ∨
      c.sign later other = .error (.signing (.sign .parts)) := by
  obtain ⟨now, r, signed, h⟩ := h
  induction c with
  | multisite c => exact c.sign_again h later other
  | provider inner ih => exact ih h
  | _ => exact .inl ⟨other, rfl⟩

end Credentials

end CloudDirector
