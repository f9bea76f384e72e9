import CloudDirector.Proofs.Program.Guarantees
import CloudDirector.Proofs.Session.Replacement

/-!
# Changes of a shared context

What clients do on a context that they share changes it in four ways only: a log-in puts a new
state in place, joining a session does, a log-in through the newer interface changes three parts of
what is there, and clearing drops all that a log-in gave. The first two build the new state from the
tenant that they saw before their exchange.
-/
namespace CloudDirector
open Http Time

variable {s : Settings} {seen : AuthState}

/-- The states that a transaction may install. -/
def Transaction.Yields (x : Transaction) (t : AuthState) : Prop :=
  ∃ id now later request o, x.request id now later = .ok request ∧ x.state o = .ok t

/-- The states from which clients join a session, under a tenant. -/
inductive Candidate (tenant : Option String) : AuthState → Prop
  | credentials {c : Credentials} (sessionless : c.isSessionless = true) :
    Candidate tenant { AuthState.ofTenant tenant with credentials := some c }
  | token (t : SessionToken) :
    Candidate tenant { AuthState.ofTenant tenant with
      token := some t.token
      cookies := (t.cookie.map fun v => (CookieName.legacy, v)).toList }
  | jwt (jwt : String) (context : Option String) :
    Candidate tenant { AuthState.ofTenant tenant with jwt := some jwt, authContext := context }

/-- The changes that clients make to a context at which they looked last in the state `seen`. -/
inductive SessionChange (seen : AuthState) : (AuthState → AuthState) → Prop
  | login {s : Settings} {c : Credentials} {t : AuthState}
    (yields : (Transaction.login s c seen.tenant).Yields t) : SessionChange seen fun _ => t
  | join {s : Settings} {x t : AuthState} (candidate : Candidate seen.tenant x)
    (yields : (Transaction.join s x).Yields t) : SessionChange seen fun _ => t
  | openApi {s : Settings} {root : Url} {c : Credentials} {jwt : String}
    (yields : (Transaction.loginAt s root c seen).Yields (OpenApi.loggedIn c jwt seen)) :
    SessionChange seen (OpenApi.loggedIn c jwt)
  | clear : SessionChange seen AuthState.cleared

section Requests

variable {rule : AuthState → (AuthState → AuthState) → Prop}

theorem Attempt.guarantees_prepare {a : Attempt} :
    (a.prepare s).Guarantees rule
      (fun x request => x = seen ∧ ∃ id now, a.request s id now = .ok request) seen := by
  unfold Attempt.prepare
  rw [Action.guarantees_result_bind]
  intro opening hopening
  rw [Action.guarantees_draw_bind]
  intro id
  rw [Action.guarantees_now_bind]
  intro now
  rw [Action.guarantees_result]
  intro request hrequest
  exact ⟨rfl, id, now, Result.bind_eq_ok.2 ⟨opening, hopening, hrequest⟩⟩

theorem guarantees_send {r : Request} :
    (send s r).Guarantees rule (fun x result => x = seen ∧ ∃ o : Outcome, result = o.result) seen :=
  fun o => ⟨rfl, o, rfl⟩

theorem guarantees_sendExpecting {expected : Status} {r : Request} :
    (sendExpecting s expected r).Guarantees rule
      (fun x reply => x = seen ∧ ∃ o : Outcome, o.expect expected = .ok reply) seen := by
  unfold sendExpecting
  apply Action.Guarantees.bind (Action.guarantees_program.2 guarantees_send)
  rintro x result ⟨rfl, o, rfl⟩
  cases ho : o.result with
  | error f => exact Action.guarantees_throw
  | ok reply =>
    apply Action.guarantees_result.2
    intro answer hanswer
    refine ⟨rfl, o, ?_⟩
    unfold Outcome.expect
    rw [ho]
    exact hanswer

/-- A request with the header of a log-in is assembled and exchanged; then its reply is used. -/
theorem guarantees_signed_exchange {α : Type} {a : Attempt} {c : Credentials} {expected : Status}
    {ends : AuthState → α → Prop} {use : Reply → Action α}
    (huse : ∀ id now later request o reply,
      (a.request s id now >>= withLoginHeader c later) = .ok request →
        Outcome.expect expected o = .ok reply → (use reply).Guarantees rule ends seen) :
    Action.Guarantees rule ends (do
      let bare ← a.prepare s
      let request ← withLoginHeader c (← Program.now) bare
      sendExpecting s expected request >>= use) seen := by
  apply Action.Guarantees.bind Attempt.guarantees_prepare
  rintro x bare ⟨rfl, id, now, hbare⟩
  rw [Action.guarantees_now_bind]
  intro later
  rw [Action.guarantees_result_bind]
  intro request hrequest
  apply Action.Guarantees.bind guarantees_sendExpecting
  rintro y reply ⟨rfl, o, ho⟩
  exact huse id now later request o reply (Result.bind_eq_ok.2 ⟨bare, hbare, hrequest⟩) ho

end Requests

theorem guarantees_login {c : Credentials} :
    (login s c).Guarantees SessionChange (fun _ _ => True) seen := by
  unfold login
  rw [Action.guarantees_result_bind]
  intro url hurl
  rw [Action.guarantees_getState_bind]
  intro current
  apply guarantees_signed_exchange
  intro id now later request o reply hrequest hreply
  rw [Action.guarantees_result_bind]
  intro t ht
  rw [Program.install, Action.guarantees_modify]
  have hyields : (Transaction.login s c current.tenant).Yields t :=
    ⟨id, now, later, request, o, Result.bind_eq_ok.2 ⟨url, hurl, hrequest⟩,
      Result.bind_eq_ok.2 ⟨reply, hreply, ht⟩⟩
  exact ⟨.login hyields, trivial⟩

theorem guarantees_relogin :
    (relogin s).Guarantees SessionChange (fun _ _ => True) seen := by
  unfold relogin
  rw [Action.guarantees_getState_bind]
  intro current
  cases current.credentials with
  | some c => exact guarantees_login
  | none => exact Action.guarantees_throw

theorem guarantees_joinSession {candidate : AuthState} (hc : Candidate seen.tenant candidate) :
    (joinSession s candidate).Guarantees SessionChange (fun _ _ => True) seen := by
  unfold joinSession
  rw [Action.guarantees_result_bind]
  intro url hurl
  apply Action.Guarantees.bind Attempt.guarantees_prepare
  rintro x request ⟨rfl, id, now, hrequest⟩
  apply Action.Guarantees.bind guarantees_sendExpecting
  rintro y reply ⟨rfl, o, ho⟩
  rw [Action.guarantees_result_bind]
  intro session hsession
  rw [Program.install, Action.guarantees_modify]
  have hyields : (Transaction.join s candidate).Yields { candidate with session := some session } :=
    ⟨id, now, now, request, o, Result.bind_eq_ok.2 ⟨url, hurl, hrequest⟩,
      Result.bind_eq_ok.2 ⟨reply, ho, Result.bind_eq_ok.2 ⟨session, hsession, rfl⟩⟩⟩
  exact ⟨.join hc hyields, trivial⟩

theorem guarantees_openApi_login {root : Url} {c : Credentials} :
    (OpenApi.login s root c).Guarantees SessionChange (fun _ _ => True) seen := by
  unfold OpenApi.login
  rw [Action.guarantees_result_bind]
  intro p hp
  rw [Action.guarantees_getState_bind]
  intro current
  apply guarantees_signed_exchange
  intro id now later request o reply hrequest hreply
  cases hjwt : filledHeader reply Name.accessToken with
  | none => exact Action.guarantees_throw
  | some jwt =>
    rw [Action.guarantees_modify]
    have hyields : (Transaction.loginAt s root c current).Yields (OpenApi.loggedIn c jwt current) := by
      refine ⟨id, now, later, request, o, Result.bind_eq_ok.2 ⟨p, hp, hrequest⟩, ?_⟩
      refine Result.bind_eq_ok.2 ⟨reply, hreply, ?_⟩
      unfold Transaction.stateOfToken
      rw [hjwt]
    exact ⟨.openApi hyields, trivial⟩

theorem LoginWay.guarantees_action (way : LoginWay) :
    (way.action s).Guarantees SessionChange (fun _ _ => True) seen := by
  cases way with
  | login c => exact guarantees_login
  | relogin => exact guarantees_relogin
  | setCredentials c =>
    simp only [action, CloudDirector.setCredentials]
    cases hc : c.isSessionless with
    | true =>
      simp only [if_true, Action.guarantees_getState_bind]
      exact fun current => guarantees_joinSession (.credentials hc)
    | false => exact guarantees_login
  | withToken t =>
    simp only [action, loginWithToken, Action.guarantees_getState_bind]
    exact fun current => guarantees_joinSession (.token t)
  | withJwt jwt context =>
    simp only [action, loginWithJwt, Action.guarantees_getState_bind]
    exact fun current => guarantees_joinSession (.jwt jwt context)
  | openApi root c => exact guarantees_openApi_login

theorem guarantees_deleteSession :
    (deleteSession s).Guarantees SessionChange (fun _ _ => True) seen := by
  unfold deleteSession
  rw [Action.guarantees_result_bind]
  intro url hurl
  rw [Action.guarantees_getState_bind]
  intro current
  apply Action.Guarantees.bind Attempt.guarantees_prepare
  intro x request _
  apply Action.Guarantees.bind guarantees_sendExpecting
  intro y reply _
  exact Action.guarantees_pure.2 trivial

theorem guarantees_logout : (logout s).Guarantees SessionChange (fun _ _ => True) seen := by
  unfold logout
  apply Action.Guarantees.bind guarantees_deleteSession.attempt
  intro x result _
  rw [Action.guarantees_modify_bind, Action.guarantees_result]
  exact ⟨.clear, fun _ _ => trivial⟩

theorem guarantees_beforeRetry {state : AuthState} {f : Failure} :
    (beforeRetry s state f).Guarantees SessionChange (fun _ _ => True) seen := by
  have hnothing : Action.Guarantees SessionChange (fun _ _ => True) (pure ()) seen :=
    Action.guarantees_pure.2 trivial
  unfold beforeRetry
  split
  · unfold renewSession
    split
    · split
      · exact hnothing
      · apply Action.Guarantees.bind guarantees_relogin.attempt
        intro x result _
        cases result with
        | ok _ => exact Action.guarantees_pure.2 trivial
        | error e => exact Action.guarantees_throw
    · exact hnothing
  · exact hnothing

theorem guarantees_attempts {p : RequestPlan} {body : Option String} {more attempt : Nat} :
    (attempts s p body more attempt).Guarantees SessionChange (fun _ _ => True) seen := by
  induction more using Nat.strongRecOn generalizing attempt seen with
  | ind more ih =>
    unfold attempts
    rw [Action.guarantees_getState_bind]
    intro current
    apply Action.Guarantees.bind Attempt.guarantees_prepare
    intro x request _
    apply Action.Guarantees.bind (Action.guarantees_program.2 guarantees_send)
    intro y result _
    cases result with
    | ok reply => exact Action.guarantees_pure.2 trivial
    | error f =>
      dsimp only
      split
      · cases more with
        | zero => exact Action.guarantees_throw
        | succ more => exact guarantees_beforeRetry.bind fun _ _ _ => ih more (Nat.lt_succ_self more)
      · exact Action.guarantees_throw

/-- The calls that clients make on a context that they share. -/
inductive ContextCall where
  | enter (way : LoginWay)
  | logout
  | clear
  | request (p : RequestPlan) (body : Option String)

def ContextCall.action (s : Settings) : ContextCall → Action Unit
  | .enter way => way.action s
  | .logout => CloudDirector.logout s
  | .clear => clearContext
  | .request p body => discard (execute s p body)

theorem ContextCall.guarantees_action (call : ContextCall) :
    (call.action s).Guarantees SessionChange (fun _ _ => True) seen := by
  cases call with
  | enter way => exact way.guarantees_action
  | logout => exact guarantees_logout
  | clear =>
    unfold action clearContext
    rw [Action.guarantees_modify]
    exact ⟨.clear, trivial⟩
  | request p body => exact guarantees_attempts.bind fun _ _ _ => Action.guarantees_pure.2 trivial

end CloudDirector
