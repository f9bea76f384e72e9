import CloudDirector.Client.Call
import CloudDirector.Client.OpenApi
import CloudDirector.Proofs.Program.Runs

/-!
# Session transactions

Every way into a session assembles one request, exchanges it once, and installs a state that
depends on the outcome alone; whatever fails on the way leaves the context as it was. A
transaction says which request and which state these are.
-/
namespace CloudDirector
open Http Json Time

variable {s : Settings} {st st' : AuthState} {history : List Exchange}

/-- Assembling exchanges nothing and changes nothing; the number and the time are free. -/
theorem Attempt.runs_prepare_bind {β : Type} {a : Attempt} {f : Request → Action β}
    {r : Result β} :
    Action.Runs (a.prepare s >>= f) st history r st' ↔ ∃ id now, s.requestIds.Gives id ∧
      ((∃ e, a.request s id now = .error e ∧ history = [] ∧ r = .error e ∧ st' = st) ∨
        ∃ request, a.request s id now = .ok request ∧
          Action.Runs (f request) st history r st') := by
  unfold Attempt.prepare Attempt.request
  cases a.openingHeaders s with
  | error e =>
    simp only [bind_assoc, Action.runs_result_bind, Result.error_bind]
    constructor
    · intro h
      obtain ⟨id, hid⟩ := s.requestIds.exists_gives
      exact ⟨id, default, hid, .inl ⟨e, rfl, h⟩⟩
    · rintro ⟨_, _, _, ⟨_, he, h⟩ | ⟨_, he, _⟩⟩
      · cases he
        exact h
      · cases he
  | ok opening =>
    simp only [bind_assoc, Action.runs_result_bind, Action.runs_draw_bind, Action.runs_now_bind,
      Result.ok_bind]
    constructor
    · rintro ⟨id, hid, now, h⟩
      refine ⟨id, now, hid, ?_⟩
      cases hc : a.closing opening id now with
      | error e => exact .inl ⟨e, rfl, by simpa [hc] using h⟩
      | ok request => exact .inr ⟨request, rfl, by simpa [hc] using h⟩
    · rintro ⟨id, now, hid, ⟨e, hc, h⟩ | ⟨request, hc, h⟩⟩
      · exact ⟨id, hid, now, by simpa [hc] using h⟩
      · exact ⟨id, hid, now, by simpa [hc] using h⟩

@[simp] theorem runs_send {r : Request} {x : Except Failure Reply} :
    (send s r).Runs st history x st' ↔ ∃ o, history = [⟨r, o⟩] ∧ x = o.result ∧ st' = st := by
  unfold send
  rw [Program.runs_bind]
  constructor
  · rintro ⟨before, o, t, after, h, ⟨rfl, rfl, rfl⟩, rfl⟩
    obtain ⟨rfl, rfl⟩ := Program.runs_exchangeOnce.1 h
    exact ⟨o, rfl, rfl, rfl⟩
  · rintro ⟨o, rfl, rfl, rfl⟩
    exact ⟨_, o, _, [], Program.runs_exchangeOnce.2 ⟨rfl, rfl⟩, ⟨rfl, rfl, rfl⟩, rfl⟩

def Http.Outcome.expect (expected : Status) (o : Outcome) : Result Reply :=
  match o.result with
  | .ok r => requireStatus expected r
  | .error f => .error f.toError

theorem runs_sendExpecting_bind {β : Type} {expected : Status} {request : Request}
    {f : Reply → Action β} {r : Result β} :
    Action.Runs (sendExpecting s expected request >>= f) st history r st' ↔
      ∃ o rest, history = ⟨request, o⟩ :: rest ∧
        ((∃ e, o.expect expected = .error e ∧ rest = [] ∧ r = .error e ∧ st' = st) ∨
          ∃ reply, o.expect expected = .ok reply ∧ Action.Runs (f reply) st rest r st') := by
  unfold sendExpecting
  rw [bind_assoc, Action.runs_program_bind]
  constructor
  · rintro ⟨before, x, t, after, hsend, h, rfl⟩
    obtain ⟨o, rfl, rfl, rfl⟩ := runs_send.1 hsend
    refine ⟨o, after, rfl, ?_⟩
    unfold Outcome.expect
    cases ho : o.result with
    | error e => exact .inl ⟨e.toError, rfl, by simpa [ho] using h⟩
    | ok reply =>
      cases hr : requireStatus expected reply with
      | error e => exact .inl ⟨e, hr, by simpa [ho, hr] using h⟩
      | ok answer => exact .inr ⟨answer, hr, by simpa [ho, hr] using h⟩
  · rintro ⟨o, rest, rfl, h⟩
    refine ⟨_, o.result, _, rest, runs_send.2 ⟨o, rfl, rfl, rfl⟩, ?_, rfl⟩
    unfold Outcome.expect at h
    cases ho : o.result with
    | error e => simpa [ho] using h
    | ok reply => cases hr : requireStatus expected reply <;> simpa [ho, hr] using h

/-- A request, given its number and two readings of the clock, and the state that the outcome of
its exchange installs. -/
structure Transaction where
  request : (id : String) → (now later : Instant) → Result Request
  state : Outcome → Result AuthState

/-- A state that is there is installed; an error is passed on and leaves the state `st`. -/
def Installs (x : Result AuthState) (st : AuthState) (r : Result Unit) (st' : AuthState) : Prop :=
  match x with
  | .ok t => r = .ok () ∧ st' = t
  | .error e => r = .error e ∧ st' = st

@[simp] theorem installs_ok {t : AuthState} {r : Result Unit} :
    Installs (.ok t) st r st' ↔ r = .ok () ∧ st' = t := Iff.rfl

@[simp] theorem installs_error {e : Error} {r : Result Unit} :
    Installs (.error e) st r st' ↔ r = .error e ∧ st' = st := Iff.rfl

namespace Transaction

/-- The runs of a transaction: at most one exchange, and no change but the whole of one. -/
def Runs (x : Transaction) (ids : RequestIds) (st : AuthState) (history : List Exchange)
    (r : Result Unit) (st' : AuthState) : Prop :=
  ∃ id now later, ids.Gives id ∧
    ((∃ e, x.request id now later = .error e ∧ history = [] ∧ r = .error e ∧ st' = st) ∨
      ∃ request o, x.request id now later = .ok request ∧ history = [⟨request, o⟩] ∧
        Installs (x.state o) st r st')

def login (s : Settings) (c : Credentials) (tenant : Option String) : Transaction where
  request id now later := do
    let url ← s.apiUrl sessionsPath
    Attempt.request s ⟨.ofTenant tenant, .post, url, none, none⟩ id now >>= withLoginHeader c later
  state o := o.expect .ok >>= stateOfLogin s c tenant

def join (s : Settings) (candidate : AuthState) : Transaction where
  request id now _ := do
    let url ← s.apiUrl sessionPath
    Attempt.request s ⟨candidate, .get, url, none, none⟩ id now
  state o := o.expect .ok >>= fun reply => do
    return { candidate with session := some (← sessionOfReply s reply) }

/-- What a log-in through the newer interface makes of a reply and the state that it finds. -/
def stateOfToken (c : Credentials) (st : AuthState) (r : Reply) : Result AuthState :=
  match filledHeader r Name.accessToken with
  | some jwt => .ok (OpenApi.loggedIn c jwt st)
  | none => .error .missingToken

/-- A log-in through the newer interface, which changes the state that it finds. -/
def loginAt (s : Settings) (root : Url) (c : Credentials) (st : AuthState) : Transaction where
  request id now later := do
    let p ← OpenApi.plan root .post (OpenApi.sessionsPath c.isProvider)
    Attempt.request s ⟨.ofTenant st.tenant, .post, p.url, some p, none⟩ id now >>=
      withLoginHeader c later
  state o := o.expect .ok >>= stateOfToken c st

theorem runs_of_error {x : Transaction} {ids : RequestIds} {e : Error} {r : Result Unit}
    (h : ∀ id now later, x.request id now later = .error e) :
    x.Runs ids st history r st' ↔ history = [] ∧ r = .error e ∧ st' = st := by
  simp only [Runs, h]
  constructor
  · rintro ⟨_, _, _, _, ⟨_, he, h⟩ | ⟨_, _, he, _⟩⟩
    · cases he
      exact h
    · cases he
  · intro h
    obtain ⟨id, hid⟩ := ids.exists_gives
    exact ⟨id, default, default, hid, .inl ⟨e, rfl, h⟩⟩

/-- A transaction that succeeds makes one exchange and installs the state of its outcome. -/
theorem Runs.of_ok {x : Transaction} {ids : RequestIds}
    (h : x.Runs ids st history (.ok ()) st') : ∃ id now later e, ids.Gives id ∧
      x.request id now later = .ok e.request ∧ history = [e] ∧ x.state e.outcome = .ok st' := by
  obtain ⟨id, now, later, hid, ⟨_, -, -, hr, -⟩ | ⟨request, o, hrequest, rfl, hinstalls⟩⟩ := h
  · cases hr
  · refine ⟨id, now, later, ⟨request, o⟩, hid, hrequest, rfl, ?_⟩
    cases ho : x.state o with
    | ok t =>
      rw [ho] at hinstalls
      rw [hinstalls.2]
    | error e =>
      rw [ho] at hinstalls
      cases hinstalls.1

/-- A transaction whose request can be assembled succeeds with an outcome that yields a state. -/
theorem runs_of_state {x : Transaction} {ids : RequestIds} {id : String} {now later : Instant}
    {request : Request} {o : Outcome} (hid : ids.Gives id)
    (hrequest : x.request id now later = .ok request) (hstate : x.state o = .ok st') :
    x.Runs ids st [⟨request, o⟩] (.ok ()) st' :=
  ⟨id, now, later, hid, .inr ⟨request, o, hrequest, rfl, by simp [hstate]⟩⟩

/-- A transaction that fails makes at most one exchange and changes nothing. -/
theorem Runs.of_error {x : Transaction} {ids : RequestIds} {e : Error}
    (h : x.Runs ids st history (.error e) st') : (∃ sent : Option Exchange, history = sent.toList) ∧
      st' = st := by
  obtain ⟨id, now, later, -, ⟨_, -, rfl, -, rfl⟩ | ⟨request, o, -, rfl, hinstalls⟩⟩ := h
  · exact ⟨⟨none, rfl⟩, rfl⟩
  · refine ⟨⟨some ⟨request, o⟩, rfl⟩, ?_⟩
    cases ho : x.state o with
    | ok t =>
      rw [ho] at hinstalls
      cases hinstalls.1
    | error _ =>
      rw [ho] at hinstalls
      exact hinstalls.2

end Transaction

private theorem runs_exchange_install {expected : Status} {request : Request}
    {state : Reply → Result AuthState} {finish : Reply → Action Unit} {r : Result Unit}
    (hfinish : ∀ reply rest, (finish reply).Runs st rest r st' ↔
      rest = [] ∧ Installs (state reply) st r st') :
    Action.Runs (sendExpecting s expected request >>= finish) st history r st' ↔
      ∃ o, history = [⟨request, o⟩] ∧ Installs (o.expect expected >>= state) st r st' := by
  rw [runs_sendExpecting_bind]
  constructor
  · rintro ⟨o, rest, rfl, ⟨e, ho, rfl, h⟩ | ⟨reply, ho, h⟩⟩
    · exact ⟨o, rfl, by simpa [ho] using h⟩
    · obtain ⟨rfl, h⟩ := (hfinish reply rest).1 h
      refine ⟨o, rfl, ?_⟩
      rwa [ho, Result.ok_bind]
  · rintro ⟨o, rfl, h⟩
    refine ⟨o, [], rfl, ?_⟩
    cases ho : o.expect expected with
    | error e => exact .inl ⟨e, rfl, rfl, by simpa [ho] using h⟩
    | ok reply =>
      rw [ho, Result.ok_bind] at h
      exact .inr ⟨reply, rfl, (hfinish reply []).2 ⟨rfl, h⟩⟩

private theorem runs_install_result {x : Result AuthState} {r : Result Unit} :
    Action.Runs (do Program.install (← x)) st history r st' ↔
      history = [] ∧ Installs x st r st' := by
  rw [Action.runs_result_bind]
  cases x with
  | error e => rfl
  | ok t => exact Action.runs_modify

/-- A request that a login signs is exchanged, and its reply decides what is installed. -/
private theorem runs_signed_install {a : Attempt} {c : Credentials} {expected : Status}
    {state : Reply → Result AuthState} {finish : Reply → Action Unit} {r : Result Unit}
    (hfinish : ∀ reply rest, (finish reply).Runs st rest r st' ↔
      rest = [] ∧ Installs (state reply) st r st') :
    Action.Runs (do
      let bare ← a.prepare s
      let request ← withLoginHeader c (← Program.now) bare
      sendExpecting s expected request >>= finish) st history r st' ↔
    Transaction.Runs
      ⟨fun id now later => a.request s id now >>= withLoginHeader c later,
        fun o => o.expect expected >>= state⟩ s.requestIds st history r st' := by
  simp only [Attempt.runs_prepare_bind, Transaction.Runs, Action.runs_now_bind,
    Action.runs_result_bind]
  constructor
  · rintro ⟨id, now, hid, ⟨e, ha, h⟩ | ⟨bare, ha, later, h⟩⟩
    · exact ⟨id, now, now, hid, .inl ⟨e, by simp [ha], h⟩⟩
    · refine ⟨id, now, later, hid, ?_⟩
      cases hr : withLoginHeader c later bare with
      | error e => exact .inl ⟨e, by simp [ha, hr], by simpa [hr] using h⟩
      | ok request =>
        obtain ⟨o, rfl, ho⟩ := (runs_exchange_install hfinish).1 (by simpa [hr] using h)
        exact .inr ⟨request, o, by simp [ha, hr], rfl, ho⟩
  · rintro ⟨id, now, later, hid, ⟨e, hr, h⟩ | ⟨request, o, hr, rfl, h⟩⟩
    · refine ⟨id, now, hid, ?_⟩
      cases ha : a.request s id now with
      | error e => exact .inl ⟨e, rfl, by simp_all⟩
      | ok bare => exact .inr ⟨bare, rfl, later, by simp_all⟩
    · obtain ⟨bare, ha, hr⟩ := Result.bind_eq_ok.1 hr
      refine ⟨id, now, hid, .inr ⟨bare, ha, later, ?_⟩⟩
      simp only [hr]
      exact (runs_exchange_install hfinish).2 ⟨o, rfl, h⟩

theorem runs_login {c : Credentials} {r : Result Unit} :
    (login s c).Runs st history r st' ↔
      (Transaction.login s c st.tenant).Runs s.requestIds st history r st' := by
  unfold login Transaction.login
  cases s.apiUrl sessionsPath with
  | error e => rw [Transaction.runs_of_error (e := e) (by simp), Action.runs_error_bind]
  | ok url =>
    rw [Action.runs_ok_bind, Action.runs_getState_bind]
    exact runs_signed_install fun _ _ => runs_install_result

theorem runs_relogin {c : Credentials} {r : Result Unit} (hc : st.credentials = some c) :
    (relogin s).Runs st history r st' ↔
      (Transaction.login s c st.tenant).Runs s.requestIds st history r st' := by
  rw [← runs_login]
  unfold relogin
  rw [Action.runs_getState_bind, hc]

theorem runs_joinSession {candidate : AuthState} {r : Result Unit} :
    (joinSession s candidate).Runs st history r st' ↔
      (Transaction.join s candidate).Runs s.requestIds st history r st' := by
  unfold joinSession Transaction.join
  cases s.apiUrl sessionPath with
  | error e => rw [Transaction.runs_of_error (e := e) (by simp), Action.runs_error_bind]
  | ok url =>
    have hfinish (reply : Reply) (rest : List Exchange) :
        Action.Runs (do
          let session ← sessionOfReply s reply
          Program.install { candidate with session := some session }) st rest r st' ↔
        rest = [] ∧ Installs
          (do return { candidate with session := some (← sessionOfReply s reply) }) st r st' := by
      rw [← runs_install_result]
      cases sessionOfReply s reply <;> simp
    simp only [Action.runs_result_bind, Result.ok_bind, Attempt.runs_prepare_bind,
      Transaction.Runs]
    constructor
    · rintro ⟨id, now, hid, ⟨e, ha, h⟩ | ⟨request, ha, h⟩⟩
      · exact ⟨id, now, now, hid, .inl ⟨e, ha, h⟩⟩
      · obtain ⟨o, rfl, ho⟩ := (runs_exchange_install hfinish).1 h
        exact ⟨id, now, now, hid, .inr ⟨request, o, ha, rfl, ho⟩⟩
    · rintro ⟨id, now, later, hid, ⟨e, ha, h⟩ | ⟨request, o, ha, rfl, h⟩⟩
      · exact ⟨id, now, hid, .inl ⟨e, ha, h⟩⟩
      · exact ⟨id, now, hid, .inr ⟨request, ha, (runs_exchange_install hfinish).2 ⟨o, rfl, h⟩⟩⟩

theorem runs_openApi_login {root : Url} {c : Credentials} {r : Result Unit} :
    (OpenApi.login s root c).Runs st history r st' ↔
      (Transaction.loginAt s root c st).Runs s.requestIds st history r st' := by
  unfold OpenApi.login Transaction.loginAt
  cases OpenApi.plan root .post (OpenApi.sessionsPath c.isProvider) with
  | error e => rw [Transaction.runs_of_error (e := e) (by simp), Action.runs_error_bind]
  | ok p =>
    rw [Action.runs_ok_bind, Action.runs_getState_bind]
    refine runs_signed_install fun reply rest => ?_
    unfold Transaction.stateOfToken
    cases filledHeader reply Name.accessToken with
    | none => simp
    | some jwt => exact Action.runs_modify

end CloudDirector
