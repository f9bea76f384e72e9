import CloudDirector.Proofs.Session.Headers
import CloudDirector.Proofs.Session.Transaction

/-!
# What a log-in leaves of the state before it

Six ways lead into a session. Five of them install a state that is made of their inputs, the reply
and the tenant alone, so nothing of an earlier session is left. A log-in through the newer interface
changes the credentials, the access token and its organization, and leaves token, cookies and
session as they were: then nothing is left just if there was nothing to leave.
-/
namespace CloudDirector
open Http

/-- The ways into a session, with their inputs. -/
inductive LoginWay where
  | login (c : Credentials)
  | relogin
  | setCredentials (c : Credentials)
  | withToken (t : SessionToken)
  | withJwt (jwt : String) (context : Option String)
  | openApi (root : Url) (c : Credentials)

namespace LoginWay

variable {s : Settings} {a b a' b' : AuthState} {ha hb : List Exchange}

def action (s : Settings) : LoginWay → Action Unit
  | .login c => CloudDirector.login s c
  | .relogin => CloudDirector.relogin s
  | .setCredentials c => CloudDirector.setCredentials s c
  | .withToken t => loginWithToken s t
  | .withJwt jwt context => loginWithJwt s jwt context
  | .openApi root c => OpenApi.login s root c

/-- The transaction of a way from a state; without credentials nothing can be done again. -/
def transaction (s : Settings) (st : AuthState) : LoginWay → Option Transaction
  | .login c => some (.login s c st.tenant)
  | .relogin => st.credentials.map fun c => .login s c st.tenant
  | .setCredentials c =>
    if c.isSessionless then
      some (.join s { AuthState.ofTenant st.tenant with credentials := some c })
    else some (.login s c st.tenant)
  | .withToken t => some (.join s { AuthState.ofTenant st.tenant with
      token := some t.token
      cookies := (t.cookie.map fun v => (CookieName.legacy, v)).toList })
  | .withJwt jwt context => some (.join s { AuthState.ofTenant st.tenant with
      jwt := some jwt
      authContext := context })
  | .openApi root c => some (.loginAt s root c st)

/-- Whether a way leads through the newer interface. -/
def IsOpenApi : LoginWay → Prop
  | .openApi _ _ => True
  | _ => False

/-- Every run of a way is one of its transaction, unless there are no credentials to use again. -/
theorem runs_cases {way : LoginWay} {st st' : AuthState} {history : List Exchange} {r : Result Unit}
    (h : (way.action s).Runs st history r st') :
    (∃ x, way.transaction s st = some x ∧ x.Runs s.requestIds st history r st') ∨
      (way.transaction s st = none ∧ history = [] ∧ r = .error .noCredentials ∧ st' = st) := by
  cases way with
  | login c => exact .inl ⟨_, rfl, runs_login.1 h⟩
  | relogin =>
    cases hc : st.credentials with
    | some c => exact .inl ⟨_, by simp [transaction, hc], (runs_relogin hc).1 h⟩
    | none =>
      unfold action CloudDirector.relogin at h
      rw [Action.runs_getState_bind, hc] at h
      exact .inr ⟨by simp [transaction, hc], Action.runs_throw.1 h⟩
  | setCredentials c =>
    simp only [action, CloudDirector.setCredentials] at h
    cases hc : c.isSessionless with
    | true =>
      simp only [hc, if_true, Action.runs_getState_bind] at h
      exact .inl ⟨_, by simp [transaction, hc], runs_joinSession.1 h⟩
    | false =>
      simp only [hc] at h
      exact .inl ⟨_, by simp [transaction, hc], runs_login.1 h⟩
  | withToken t =>
    simp only [action, loginWithToken, Action.runs_getState_bind] at h
    exact .inl ⟨_, rfl, runs_joinSession.1 h⟩
  | withJwt jwt context =>
    simp only [action, loginWithJwt, Action.runs_getState_bind] at h
    exact .inl ⟨_, rfl, runs_joinSession.1 h⟩
  | openApi root c =>
    rw [action, runs_openApi_login] at h
    exact .inl ⟨_, rfl, h⟩

/-- A way that fails changes nothing, with one exchange at most. -/
theorem unchanged_of_error (way : LoginWay) {st st' : AuthState} {history : List Exchange}
    {e : Error} (h : (way.action s).Runs st history (.error e) st') : st' = st ∧ history.length ≤ 1 := by
  rcases runs_cases h with ⟨x, -, hruns⟩ | ⟨-, rfl, -, rfl⟩
  · obtain ⟨⟨sent, rfl⟩, rfl⟩ := hruns.of_error
    cases sent <;> simp
  · exact ⟨rfl, Nat.zero_le _⟩

theorem runs_transaction {way : LoginWay} {st st' : AuthState} {history : List Exchange}
    (h : (way.action s).Runs st history (.ok ()) st') :
    ∃ x, way.transaction s st = some x ∧ x.Runs s.requestIds st history (.ok ()) st' := by
  rcases runs_cases h with htransaction | ⟨-, -, herror, -⟩
  · exact htransaction
  · cases herror

/-- The state that a way installs comes from the outcome of its only exchange. -/
theorem state_of_runs {way : LoginWay} {st st' : AuthState} {history : List Exchange}
    (h : (way.action s).Runs st history (.ok ()) st') : ∃ x e, way.transaction s st = some x ∧
      history = [e] ∧ x.state e.outcome = .ok st' := by
  obtain ⟨x, hx, hruns⟩ := runs_transaction h
  obtain ⟨_, _, _, e, -, -, hhistory, hstate⟩ := hruns.of_ok
  exact ⟨x, e, hx, hhistory, hstate⟩

/-- But for the newer interface, a transaction depends on the tenant, and on the credentials where
they are used again. -/
theorem transaction_congr {way : LoginWay} (hway : ¬ way.IsOpenApi) (htenant : a.tenant = b.tenant)
    (hcredentials : way = .relogin → a.credentials = b.credentials) :
    way.transaction s a = way.transaction s b := by
  cases way with
  | relogin => simp only [transaction, htenant, hcredentials rfl]
  | openApi root c => exact absurd trivial hway
  | _ => simp only [transaction, htenant]

/-- A log-in through the newer interface keeps what it does not change. -/
theorem state_loginAt {root : Url} {c : Credentials} {o : Outcome}
    (h : (Transaction.loginAt s root c a).state o = .ok a') :
    ∃ reply jwt, o.expect .ok = .ok reply ∧ filledHeader reply Name.accessToken = some jwt ∧
      a' = OpenApi.loggedIn c jwt a := by
  obtain ⟨reply, hreply, hstate⟩ := Result.bind_eq_ok.1 h
  unfold Transaction.stateOfToken at hstate
  cases hjwt : filledHeader reply Name.accessToken with
  | none =>
    rw [hjwt] at hstate
    cases hstate
  | some jwt =>
    rw [hjwt] at hstate
    cases hstate
    exact ⟨reply, jwt, hreply, hjwt, rfl⟩

end LoginWay

namespace AuthState

/-- Two states send the same headers and show the same cookies, token and session. -/
structure Agrees (x y : AuthState) : Prop where
  headers : x.authHeaders = y.authHeaders
  cookies : x.cookies = y.cookies
  token : x.sessionToken? = y.sessionToken?
  session : x.session = y.session

theorem Agrees.refl (x : AuthState) : x.Agrees x := ⟨rfl, rfl, rfl, rfl⟩

theorem token_of_sessionToken {x y : AuthState} (h : x.sessionToken? = y.sessionToken?) :
    x.token = y.token := by
  unfold sessionToken? at h
  cases hx : x.token with
  | none => cases hy : y.token <;> simp_all
  | some token => cases hy : y.token <;> simp_all

/-- After log-ins through the newer interface two states agree just if they agreed on what such a
log-in leaves as it was. -/
theorem agrees_loggedIn_iff {x y : AuthState} {c : Credentials} {jwt : String}
    (htenant : x.tenant = y.tenant) :
    (OpenApi.loggedIn c jwt x).Agrees (OpenApi.loggedIn c jwt y) ↔
      x.cookies = y.cookies ∧ x.token = y.token ∧ x.session = y.session := by
  constructor
  · intro h
    exact ⟨h.cookies, token_of_sessionToken h.token, h.session⟩
  · rintro ⟨hcookies, htoken, hsession⟩
    have heq : OpenApi.loggedIn c jwt x = OpenApi.loggedIn c jwt y := by
      simp [OpenApi.loggedIn, htenant, hcookies, htoken, hsession]
    exact heq ▸ .refl _

end AuthState

namespace LoginWay

variable {s : Settings} {a b a' b' : AuthState} {ha hb : List Exchange}

/-- Two clients under one tenant take the same way into a session and get the same reply. Their
states are then equal, unless the way leads through the newer interface: there they agree just if
they agreed before on cookies, token and session. -/
theorem agrees_iff {way : LoginWay} (htenant : a.tenant = b.tenant)
    (hcredentials : way = .relogin → a.credentials = b.credentials)
    (hruna : (way.action s).Runs a ha (.ok ()) a') (hrunb : (way.action s).Runs b hb (.ok ()) b')
    (hreply : ha.map Exchange.outcome = hb.map Exchange.outcome) :
    (¬ way.IsOpenApi → a' = b') ∧
      (a'.Agrees b' ↔
        (way.IsOpenApi → a.cookies = b.cookies ∧ a.token = b.token ∧ a.session = b.session)) := by
  obtain ⟨x, e, hx, rfl, hstatea⟩ := state_of_runs hruna
  obtain ⟨y, f, hy, rfl, hstateb⟩ := state_of_runs hrunb
  obtain houtcome : e.outcome = f.outcome := by simpa using hreply
  by_cases hway : way.IsOpenApi
  · cases way with
    | openApi root c =>
      simp only [transaction, Option.some.injEq] at hx hy
      subst hx hy
      obtain ⟨reply, jwt, hreplya, hjwta, rfl⟩ := state_loginAt hstatea
      obtain ⟨reply', jwt', hreplyb, hjwtb, rfl⟩ := state_loginAt hstateb
      obtain rfl : reply = reply' := by simpa [houtcome, hreplyb] using hreplya.symm
      obtain rfl : jwt = jwt' := by simpa [hjwtb] using hjwta.symm
      refine ⟨fun hnot => absurd hway hnot, ?_⟩
      rw [AuthState.agrees_loggedIn_iff htenant]
      exact ⟨fun h _ => h, fun h => h hway⟩
    | _ => exact absurd hway id
  · have hxy : y = x := by
      rw [transaction_congr hway htenant hcredentials, hy] at hx
      exact Option.some.inj hx
    have hsame : a' = b' := by
      rw [hxy, ← houtcome, hstatea] at hstateb
      exact Except.ok.inj hstateb
    exact ⟨fun _ => hsame, fun _ hopen => absurd hopen hway, fun _ => hsame ▸ .refl _⟩

/-- A user who logs in through the newer interface after another user is left with that user's
cookie and token: a state that a log-in installed and the empty state do not agree afterwards. -/
theorem not_agrees_of_cookie : ∃ (s : Settings) (first second : LoginWay) (a a' b' : AuthState)
    (h ha hb : List Exchange), (first.action s).Runs .empty h (.ok ()) a ∧
      (second.action s).Runs a ha (.ok ()) a' ∧ (second.action s).Runs .empty hb (.ok ()) b' ∧
      ha.map Exchange.outcome = hb.map Exchange.outcome ∧ ¬ a'.Agrees b' := by
  let site : Url.Authority := ⟨[], none, "vcd".toList, none⟩
  let endpoint : Url := ⟨"https".toList, some site, .segments ["api".toList, []], none, none⟩
  let root : Url := ⟨"https".toList, some site, .segments ["cloudapi".toList, []], none, none⟩
  let s : Settings := { Settings.ofEndpoint endpoint with requestIds := .off }
  let alice : Credentials := .basic ⟨"alice", "org", "secret"⟩
  let bob : Credentials := .basic ⟨"bob", "org", "secret"⟩
  let welcome : Reply :=
    ⟨.ok, ⟨[(Name.legacyToken, "t"), (Name.setCookie, "vcloud-token=t")]⟩, "\x7b\x7d"⟩
  let granted : Reply := ⟨.ok, ⟨[(Name.accessToken, "j")]⟩, ""⟩
  obtain ⟨a, hstate⟩ : ∃ a, stateOfLogin s alice none welcome = .ok a :=
    Result.exists_of_isOk (by decide +kernel)
  obtain ⟨r, hr⟩ : ∃ r, (Transaction.login s alice none).request "" default default = .ok r :=
    Result.exists_of_isOk (by decide +kernel)
  obtain ⟨q, hq⟩ :
      ∃ q, (Transaction.loginAt s root bob .empty).request "" default default = .ok q :=
    Result.exists_of_isOk (by decide +kernel)
  have hgranted (st : AuthState) : (Transaction.loginAt s root bob st).state (.reply granted) =
      .ok (OpenApi.loggedIn bob "j" st) := Result.bind_eq_ok.2 ⟨granted, rfl, rfl⟩
  have htenant := (AuthState.of_stateOfLogin hstate).2.1
  have htoken : a.token = some "t" := by
    have htokens : (stateOfLogin s alice none welcome).toOption.map AuthState.token =
        some (some "t") := by decide +kernel
    simpa [hstate, Except.toOption] using htokens
  have hfirst : ((LoginWay.login alice).action s).Runs .empty [⟨r, .reply welcome⟩] (.ok ())
      a := by
    rw [action, runs_login]
    exact Transaction.runs_of_state rfl hr (Result.bind_eq_ok.2 ⟨welcome, rfl, hstate⟩)
  have hsecond (st : AuthState) (hst : st.tenant = none) :
      ((LoginWay.openApi root bob).action s).Runs st [⟨q, .reply granted⟩] (.ok ())
        (OpenApi.loggedIn bob "j" st) := by
    have hrequest : (Transaction.loginAt s root bob st).request "" default default = .ok q := by
      rw [← hq]
      simp only [Transaction.loginAt, hst]
      rfl
    rw [action, runs_openApi_login]
    exact Transaction.runs_of_state rfl hrequest (hgranted st)
  have hafter := hsecond a htenant
  have halone := hsecond .empty rfl
  have hdisagree : ¬ (OpenApi.loggedIn bob "j" a).Agrees (OpenApi.loggedIn bob "j" .empty) := by
    have hagain : LoginWay.openApi root bob = .relogin → a.credentials = none := nofun
    intro hagrees
    have hnone := ((agrees_iff htenant hagain hafter halone rfl).2.1 hagrees trivial).2.1
    rw [htoken] at hnone
    cases hnone
  exact ⟨s, .login alice, .openApi root bob, a, _, _, _, _, _, hfirst, hafter, halone, rfl,
    hdisagree⟩

end LoginWay

end CloudDirector
