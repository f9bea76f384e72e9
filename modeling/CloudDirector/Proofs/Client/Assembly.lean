import CloudDirector.Proofs.Session.Headers
import CloudDirector.Proofs.Session.Transaction

/-!
# Assembled requests

Assembling keeps the method, the address and the body of an attempt, and lets the authentication
headers of its state stand wherever the request's own plan does not override them. Whether a
request can be assembled depends on the state only through its authentication headers and its
signature, so a log-in keeps a request fit to be sent.
-/
namespace CloudDirector
open Http Time

theorem Credentials.sign_target {c : Credentials} {now : Instant} {r signed : Request}
    (h : c.sign now r = .ok signed) :
    signed.method = r.method ∧ signed.url = r.url ∧ signed.body = r.body := by
  induction c with
  | multisite c =>
    unfold Credentials.sign MultisiteLogin.sign at h
    obtain ⟨value, -, h⟩ := Result.bind_eq_ok.1 h
    split at h
    · cases h
      exact ⟨rfl, rfl, rfl⟩
    · cases h
  | provider inner ih => exact ih h
  | _ =>
    cases h
    exact ⟨rfl, rfl, rfl⟩

theorem withLoginHeader_target {c : Credentials} {now : Instant} {bare r : Request}
    (h : withLoginHeader c now bare = .ok r) :
    r.method = bare.method ∧ r.url = bare.url ∧ r.body = bare.body := by
  obtain ⟨headers, -, hsign⟩ := Result.bind_eq_ok.1 h
  have htarget := Credentials.sign_target hsign
  exact htarget

namespace Attempt

variable {s : Settings} {a : Attempt} {id : String} {now : Instant} {r : Request}

/-- The request before it is signed, of headers with a number and authentication headers. -/
def unsigned (a : Attempt) (numbered auth : Headers) : Request :=
  let h := numbered.replaceBy auth
  ⟨a.method, a.url, (a.plan.map fun p => h.setAll p.headers.fields).getD h, a.body⟩

/-- What a request is put together from. -/
theorem request_eq_ok : a.request s id now = .ok r ↔ ∃ opening h auth,
    a.openingHeaders s = .ok opening ∧ numbered opening id = .ok h ∧
      a.state.authHeaders = .ok auth ∧
      ((a.state.sessionless? = none ∧ r = a.unsigned h auth) ∨
        ∃ c, a.state.sessionless? = some c ∧ c.sign now (a.unsigned h auth) = .ok r) := by
  unfold request closing
  rw [Result.bind_eq_ok]
  constructor
  · rintro ⟨opening, hopening, hclosing⟩
    obtain ⟨h, hnumbered, hclosing⟩ := Result.bind_eq_ok.1 hclosing
    obtain ⟨auth, hauth, hclosing⟩ := Result.bind_eq_ok.1 hclosing
    refine ⟨opening, h, auth, hopening, hnumbered, hauth, ?_⟩
    cases hcred : a.state.sessionless? with
    | none =>
      rw [hcred] at hclosing
      cases hclosing
      exact .inl ⟨rfl, rfl⟩
    | some c =>
      rw [hcred] at hclosing
      exact .inr ⟨c, rfl, hclosing⟩
  · rintro ⟨opening, h, auth, hopening, hnumbered, hauth, hsigned⟩
    refine ⟨opening, hopening, ?_⟩
    simp only [hnumbered, hauth, Result.ok_bind]
    rcases hsigned with ⟨hcred, rfl⟩ | ⟨c, hcred, hsign⟩
    · rw [hcred]
      rfl
    · rw [hcred]
      exact hsign

/-- A request goes where its attempt says, with the body that it says. -/
theorem request_target (h : a.request s id now = .ok r) :
    r.method = a.method ∧ r.url = a.url ∧ r.body = a.body := by
  obtain ⟨_, numbered, auth, -, -, -, ⟨-, rfl⟩ | ⟨c, -, hsign⟩⟩ := request_eq_ok.1 h
  · exact ⟨rfl, rfl, rfl⟩
  · exact Credentials.sign_target hsign

/-- A request that is not signed carries the authentication headers of its state, but for those
that the plan overrides. -/
theorem request_headers (h : a.request s id now = .ok r) (hnone : a.state.sessionless? = none) :
    ∃ auth, a.state.authHeaders = .ok auth ∧ ∀ name, auth.contains name = true →
      (∀ p, a.plan = some p → name ∉ p.headers.fields.map Prod.fst) →
        r.headers.getAll name = auth.getAll name := by
  obtain ⟨_, numbered, auth, -, -, hauth, ⟨-, rfl⟩ | ⟨c, hsome, -⟩⟩ := request_eq_ok.1 h
  · refine ⟨auth, hauth, fun name hname hplan => ?_⟩
    have hreplaced : (numbered.replaceBy auth).getAll name = auth.getAll name := by
      rw [Headers.getAll_replaceBy, if_pos hname]
    unfold unsigned
    cases hp : a.plan with
    | none => exact hreplaced
    | some p => exact (Headers.getAll_setAll (hplan p hp) _).trans hreplaced
  · rw [hnone] at hsome
    cases hsome

/-- An attempt can be assembled, whichever number it draws and whenever that is. -/
def IsFit (s : Settings) (a : Attempt) : Prop :=
  ∀ id now, s.requestIds.Gives id → ∃ r, a.request s id now = .ok r

theorem IsFit.exists_authHeaders (h : a.IsFit s) : ∃ auth, a.state.authHeaders = .ok auth := by
  obtain ⟨id, hid⟩ := s.requestIds.exists_gives
  obtain ⟨r, hr⟩ := h id default hid
  obtain ⟨_, _, auth, -, -, hauth, -⟩ := request_eq_ok.1 hr
  exact ⟨auth, hauth⟩

/-- A client that does not number its requests can assemble one without a body in a state that
signs nothing and whose headers are there. -/
theorem isFit_of_unsigned {auth : Headers} (hids : s.requestIds = .off) (hbody : a.body = none)
    (haccept : isHeaderValue
      (s.versioned ((a.plan.bind RequestPlan.accept).getD Media.anyJson)) = true)
    (hnone : a.state.sessionless? = none) (hauth : a.state.authHeaders = .ok auth) :
    IsFit s a := by
  intro id now hid
  rw [hids] at hid
  obtain rfl : id = "" := hid
  have hopening : openingHeaders s a = .ok (s.defaults.set Name.accept
      (s.versioned ((a.plan.bind RequestPlan.accept).getD Media.anyJson))) := by
    refine Result.bind_eq_ok.2 ⟨_, checkValue_eq_ok.2 ⟨haccept, rfl⟩, ?_⟩
    rw [hbody]
    rfl
  exact ⟨_, request_eq_ok.2 ⟨_, _, auth, hopening, rfl, hauth, .inl ⟨hnone, rfl⟩⟩⟩

/-- An attempt stays fit in a state that signs nothing and whose headers are there. -/
theorem IsFit.with_state (h : a.IsFit s) {x : AuthState} {auth : Headers}
    (hnone : x.sessionless? = none) (hauth : x.authHeaders = .ok auth) :
    IsFit s { a with state := x } := by
  intro id now hid
  obtain ⟨r, hr⟩ := h id now hid
  obtain ⟨opening, numbered, _, hopening, hnumbered, -, -⟩ := request_eq_ok.1 hr
  exact ⟨_, request_eq_ok.2 ⟨opening, numbered, auth, hopening, hnumbered, hauth,
    .inl ⟨hnone, rfl⟩⟩⟩

/-- An attempt stays fit in the state that a log-in under the same tenant installs, if the
credentials make sessions, whatever the settings of the log-in. -/
theorem IsFit.after_login (h : a.IsFit s) {other : Settings} {c : Credentials} {reply : Reply}
    {x : AuthState} (hc : c.isSessionless = false)
    (hx : stateOfLogin other c a.state.tenant reply = .ok x) : IsFit s { a with state := x } := by
  obtain ⟨-, htenant, hsendable⟩ := AuthState.of_stateOfLogin hx
  have hnone := AuthState.sessionless_of_stateOfLogin hc hx
  obtain ⟨auth, hauth⟩ := h.exists_authHeaders
  obtain ⟨renewed, hrenewed⟩ := hsendable.exists_authHeaders hnone fun t ht =>
    AuthState.isHeaderValue_tenant hauth t (htenant ▸ ht)
  exact h.with_state hnone hrenewed

end Attempt

theorem Transaction.login_target {s : Settings} {c : Credentials} {tenant : Option String}
    {id : String} {now later : Instant} {r : Request}
    (h : (Transaction.login s c tenant).request id now later = .ok r) :
    r.method = .post ∧ s.apiUrl sessionsPath = .ok r.url := by
  obtain ⟨url, hurl, h⟩ := Result.bind_eq_ok.1 h
  obtain ⟨bare, hbare, h⟩ := Result.bind_eq_ok.1 h
  obtain ⟨hmethod, hto, -⟩ := withLoginHeader_target h
  obtain ⟨hbaremethod, hbareto, -⟩ := Attempt.request_target hbare
  exact ⟨hmethod.trans hbaremethod, by rw [hto, hbareto, hurl]⟩

end CloudDirector
