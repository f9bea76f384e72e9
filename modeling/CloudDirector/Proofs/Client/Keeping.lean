import Mathlib.Logic.Function.Iterate
import CloudDirector.Proofs.Http.Refusal

/-!
# What an error keeps of a reply

A reply that makes an operation fail is refused, has another status than the operation needs, or
cannot be read. The status goes with the error into every failed re-login around it, and so does the
server's number of the request. But the number is lost where a body cannot be read, and the
accessors of the body and of the error detail do not look into a failed re-login.
-/
namespace CloudDirector
open Http Json

namespace Error

variable (e : Error) (n : Nat)

theorem status?_iterate : (reloginFailed^[n] e).status? = e.status? := by
  induction n with
  | zero => rfl
  | succ n ih => rw [Function.iterate_succ_apply', status?, ih]

theorem requestId?_iterate : (reloginFailed^[n] e).requestId? = e.requestId? := by
  induction n with
  | zero => rfl
  | succ n ih => rw [Function.iterate_succ_apply', requestId?, ih]

theorem body?_iterate_succ : (reloginFailed^[n + 1] e).body? = none := by
  rw [Function.iterate_succ_apply']
  rfl

theorem detail?_iterate_succ : (reloginFailed^[n + 1] e).detail? = none := by
  rw [Function.iterate_succ_apply']
  rfl

end Error

namespace Http.Reply

variable {r : Reply} {e : Error}

def Carries (r : Reply) (detail : ErrorDetail) : Prop :=
  r.status.isSuccess = false ∧ r.AnnouncesDetail ∧ r.detail? = some detail

/-- A reply makes an operation fail with an error. -/
inductive FailsAs (r : Reply) : Error → Prop
  | refused {f : Failure} (failed : (Outcome.reply r).result = .error f) : FailsAs r f.toError
  | unexpected {expected : Status} {e : Error} (success : r.status.isSuccess = true)
    (other : requireStatus expected r = .error e) : FailsAs r e
  | unread {α : Type} {item : Decoder α} {attempts : Nat} {e : Error}
    (success : r.status.isSuccess = true)
    (failed : (Response.mk () r.body r.status r.headers attempts).decode item = .error e) :
    FailsAs r e
  | noSession {s : Settings} {e : Error} (success : r.status.isSuccess = true)
    (undecoded : (Document.ofText? r.body).bind SessionResource.ofDocument = none)
    (failed : sessionOfReply s r = .error e) : FailsAs r e

/-- The three errors by which a reply makes an operation fail. -/
theorem FailsAs.error_cases (h : r.FailsAs e) : (r.status.isSuccess = false ∧ r.Means e) ∨
    r.status.isSuccess = true ∧
      ((∃ expected,
          e = .unexpectedStatus expected r.status (r.header? Name.requestId) r.body) ∨
        e = .undecodable r.status r.body) := by
  cases h with
  | refused failed =>
    change (if r.status.isSuccess then _ else _) = _ at failed
    split at failed
    next => cases failed
    next refused =>
      cases failed
      exact .inl ⟨by simpa using refused, FailedReply.means_toError r⟩
  | unexpected success other =>
    unfold requireStatus at other
    split at other
    · cases other
    · cases other
      exact .inr ⟨success, .inl ⟨_, rfl⟩⟩
  | unread success failed =>
    unfold Response.decode at failed
    split at failed
    · cases failed
    · cases failed
      exact .inr ⟨success, .inr rfl⟩
  | noSession success undecoded failed =>
    unfold sessionOfReply at failed
    rw [undecoded] at failed
    cases failed
    exact .inr ⟨success, .inr rfl⟩

theorem FailsAs.status? (h : r.FailsAs e) : e.status? = some r.status := by
  obtain ⟨-, hmeans⟩ | ⟨-, ⟨expected, rfl⟩ | rfl⟩ := h.error_cases
  · exact hmeans.status?
  · rfl
  · rfl

theorem FailsAs.body? (h : r.FailsAs e) : e.body? = some r.body := by
  obtain ⟨-, hmeans⟩ | ⟨-, ⟨expected, rfl⟩ | rfl⟩ := h.error_cases
  · exact hmeans.body?
  · rfl
  · rfl

/-- The number of the request is kept but where a body cannot be read. -/
theorem FailsAs.requestId?_iff (h : r.FailsAs e) : e.requestId? = r.header? Name.requestId ↔
    r.header? Name.requestId = none ∨ e ≠ .undecodable r.status r.body := by
  obtain ⟨-, hmeans⟩ | ⟨-, ⟨expected, rfl⟩ | rfl⟩ := h.error_cases
  · refine iff_of_true hmeans.requestId? (.inr ?_)
    rintro rfl
    cases hmeans
  · exact iff_of_true rfl (.inr nofun)
  · have hnone : (Error.undecodable r.status r.body).requestId? = none := rfl
    rw [hnone]
    simp [eq_comm]

theorem FailsAs.detail? (h : r.FailsAs e) {detail : ErrorDetail} (hcarries : r.Carries detail) :
    e.detail? = some detail := by
  obtain ⟨hrefused, hannounced, hread⟩ := hcarries
  obtain ⟨-, hmeans⟩ | ⟨hsuccess, -⟩ := h.error_cases
  · rw [(Means.detailed hannounced hread).unique hmeans |>.symm]
    rfl
  · rw [hrefused] at hsuccess
    cases hsuccess

/-- What an error says of the reply that it is made of, in any number of failed re-logins: always
the status, and the number of the request but where a body cannot be read; but the body, and an
error detail that there is, only outside of a failed re-login. -/
theorem FailsAs.kept_iff (h : r.FailsAs e) (n : Nat) :
    (Error.reloginFailed^[n] e).status? = some r.status ∧
    ((Error.reloginFailed^[n] e).requestId? = r.header? Name.requestId ↔
      r.header? Name.requestId = none ∨ e ≠ .undecodable r.status r.body) ∧
    ((Error.reloginFailed^[n] e).body? = some r.body ↔ n = 0) ∧
    ∀ detail, r.Carries detail → ((Error.reloginFailed^[n] e).detail? = some detail ↔ n = 0) := by
  refine ⟨?_, ?_, ?_, fun detail hcarries => ?_⟩
  · rw [Error.status?_iterate, h.status?]
  · rw [Error.requestId?_iterate, h.requestId?_iff]
  · cases n with
    | zero => exact iff_of_true h.body? rfl
    | succ n =>
      rw [Error.body?_iterate_succ]
      exact iff_of_false nofun (Nat.succ_ne_zero n)
  · cases n with
    | zero => exact iff_of_true (h.detail? hcarries) rfl
    | succ n =>
      rw [Error.detail?_iterate_succ]
      exact iff_of_false nofun (Nat.succ_ne_zero n)

/-- A call is denied, and so is the log-in after it, with an error detail. The error of the call
keeps status and number, but neither the detail nor the body. -/
theorem FailsAs.lost_in_relogin : ∃ (s : Settings) (p : RequestPlan) (w : World) (r : Reply)
    (detail : ErrorDetail) (e : Error),
    w.server.script = [.reply ⟨.unauthorized, .empty, ""⟩, .reply r] ∧ r.Carries detail ∧
      r.FailsAs e ∧ ((execute s p none).runIn w).1.map Prod.snd = .error (.reloginFailed e) ∧
      (Error.reloginFailed e).status? = some .unauthorized ∧
      (Error.reloginFailed e).requestId? = some "req-1" ∧
      (Error.reloginFailed e).body? ≠ some r.body ∧
      (Error.reloginFailed e).detail? ≠ some detail := by
  let endpoint : Url :=
    ⟨"https".toList, some ⟨[], none, "vcd".toList, none⟩, .segments ["api".toList, []], none, none⟩
  let s : Settings := { Settings.ofEndpoint endpoint with requestIds := .off }
  let st : AuthState := { AuthState.empty with
    credentials := some (.basic ⟨"alice", "acme", "secret"⟩), token := some "token" }
  let detail : ErrorDetail := ⟨some "Invalid credentials", 401, none, none, none⟩
  let headers : Headers :=
    ⟨[(Name.contentType, Media.errorDetail ++ "+json"), (Name.requestId, "req-1")]⟩
  let r : Reply := ⟨.unauthorized, headers, detail.toJson.text⟩
  let w : World := ⟨st, none, fun _ => 0, 0, default,
    .scripted [.reply ⟨.unauthorized, .empty, ""⟩, .reply r]⟩
  let e : Error := .server .unauthorized (some "req-1") (some detail) none r.body
  have hannounced : r.AnnouncesDetail := FailedReply.bringsDetail_iff.1 (by decide +kernel)
  have hcarries : r.Carries detail := ⟨rfl, hannounced, by decide +kernel⟩
  have herror : (Failure.refused (FailedReply.ofReply r)).toError = e := by decide +kernel
  have hfails : r.FailsAs e := herror ▸ .refused rfl
  have hrun : ((execute s (.make .get endpoint) none).runIn w).1.map Prod.snd =
      .error (.reloginFailed e) := by decide +kernel
  obtain ⟨hstatus, hnumber, hbody, hdetail⟩ := hfails.kept_iff 1
  refine ⟨s, _, w, r, detail, e, rfl, hcarries, hfails, hrun, hstatus, ?_, ?_, ?_⟩
  · exact hnumber.2 (.inr nofun)
  · exact fun h => absurd (hbody.1 h) Nat.one_ne_zero
  · exact fun h => absurd ((hdetail detail hcarries).1 h) Nat.one_ne_zero

end Http.Reply

end CloudDirector
