import Mathlib.Data.List.Chain
import CloudDirector.Client.Call
import CloudDirector.Proofs.Client.Assembly

/-!
# The course of a call

A call of a client with the usual classifier is a list of rounds against every server: an attempt
in each, and a log-in after an attempt whose session has to be renewed. The next attempt is
assembled from the state that the log-in installed. A call ends with the first reply that does
not deny it, with the last attempt that its limit allows, or with a log-in that fails.
-/
namespace CloudDirector
open Http

/-- The server denies the right to a request. -/
def Http.Outcome.IsDenied (o : Outcome) : Prop :=
  ∃ reply, o = .reply reply ∧ (reply.status = .unauthorized ∨ reply.status = .forbidden)

/-- The server wants to see authentication. -/
def Http.Outcome.IsUnauthorized (o : Outcome) : Prop :=
  ∃ reply, o = .reply reply ∧ reply.status = .unauthorized

theorem Http.Outcome.status_of_result {o : Outcome} {f : Failure} (h : o.result = .error f)
    (status : Status) :
    f.status? = some status ↔ ∃ reply, o = .reply reply ∧ reply.status = status := by
  cases o with
  | reply reply =>
    change (if reply.status.isSuccess then _ else _) = _ at h
    split at h
    · cases h
    · cases h
      simp [Failure.status?, FailedReply.ofReply]
  | timedOut =>
    cases h
    simp [Failure.status?]
  | lost =>
    cases h
    simp [Failure.status?]

theorem Http.Outcome.of_result_ok {o : Outcome} {reply : Reply} (h : o.result = .ok reply) :
    o = .reply reply ∧ reply.status.isSuccess = true := by
  cases o with
  | reply r =>
    change (if r.status.isSuccess then _ else _) = _ at h
    split at h
    · cases h
      exact ⟨rfl, ‹_›⟩
    · cases h
  | timedOut => cases h
  | lost => cases h

theorem Http.Outcome.isUnauthorized_iff {o : Outcome} {f : Failure} (h : o.result = .error f) :
    o.IsUnauthorized ↔ f.status? = some .unauthorized :=
  (Outcome.status_of_result h .unauthorized).symm

theorem Http.Outcome.isDenied_iff {o : Outcome} {f : Failure} (h : o.result = .error f) :
    o.IsDenied ↔ Classifier.isDenial f = true := by
  have hstatus := Outcome.status_of_result h
  have hsplit : o.IsDenied ↔
      f.status? = some .unauthorized ∨ f.status? = some .forbidden := by
    rw [hstatus, hstatus]
    constructor
    · rintro ⟨reply, ho, hu | hf⟩
      · exact .inl ⟨reply, ho, hu⟩
      · exact .inr ⟨reply, ho, hf⟩
    · rintro (⟨reply, ho, hu⟩ | ⟨reply, ho, hf⟩)
      · exact ⟨reply, ho, .inl hu⟩
      · exact ⟨reply, ho, .inr hf⟩
  rw [hsplit]
  unfold Classifier.isDenial Status.isDenied
  cases f.status? <;> simp

/-- One attempt at a request: the state that it is assembled from, its exchange, and the exchange
of the log-in after it, if there was one. -/
structure Round where
  state : AuthState
  target : Exchange
  login : Option Exchange

def RequestPlan.attempt (p : RequestPlan) (body : Option String) (st : AuthState) : Attempt :=
  ⟨st, p.method, p.fullUrl, some p, body⟩

/-- After an outcome in a state a client has to log in again with credentials: authentication is
missing, the client renews sessions, and the credentials make sessions. -/
structure RenewalDue (s : Settings) (st : AuthState) (o : Outcome) (c : Credentials) : Prop where
  unauthorized : o.IsUnauthorized
  enabled : s.relogin = true
  credentials : st.credentials = some c
  sessions : c.isSessionless = false

/-- An exchange is a log-in with credentials from one state into another. -/
structure Exchange.LogsIn (e : Exchange) (s : Settings) (c : Credentials) (st st' : AuthState) :
    Prop where
  post : e.request.method = .post
  address : s.apiUrl sessionsPath = .ok e.request.url
  request : ∃ id now later, s.requestIds.Gives id ∧
    (Transaction.login s c st.tenant).request id now later = .ok e.request
  installs : (Transaction.login s c st.tenant).state e.outcome = .ok st'

namespace Round

/-- What is exchanged in a round. -/
def exchanges (x : Round) : List Exchange := x.target :: x.login.toList

/-- The request of a round is assembled from its state, and goes where the plan says. -/
structure IsAssembled (x : Round) (s : Settings) (p : RequestPlan) (body : Option String) :
    Prop where
  sameMethod : x.target.request.method = p.method
  sameUrl : x.target.request.url = p.fullUrl
  sameBody : x.target.request.body = body
  request : ∃ id now, s.requestIds.Gives id ∧
    (p.attempt body x.state).request s id now = .ok x.target.request

/-- The request of a round carries the authentication headers of its state, but for those that
the plan overrides. -/
def CarriesHeaders (x : Round) (p : RequestPlan) : Prop :=
  ∃ auth, x.state.authHeaders = .ok auth ∧ ∀ name, auth.contains name = true →
    name ∉ p.headers.fields.map Prod.fst → x.target.request.headers.getAll name = auth.getAll name

/-- One round follows another: the first was denied, and if its session had to be renewed, then
one log-in renewed it, else nothing was exchanged and nothing changed. -/
def Follows (s : Settings) (p : RequestPlan) (x y : Round) : Prop :=
  x.target.outcome.IsDenied ∧
    ((∃ c e, RenewalDue s x.state x.target.outcome c ∧ x.login = some e ∧
        e.LogsIn s c x.state y.state ∧ y.CarriesHeaders p) ∨
      ((∀ c, ¬ RenewalDue s x.state x.target.outcome c) ∧ x.login = none ∧ y.state = x.state))

/-- How a call may end in a round, when `more` attempts are left after the `attempt`-th. -/
inductive Ends (s : Settings) (x : Round) (more attempt : Nat) : Result (Reply × Nat) → Prop
  | answered {reply : Reply} (success : reply.status.isSuccess = true)
    (outcome : x.target.outcome = .reply reply) (login : x.login = none) :
    Ends s x more attempt (.ok (reply, attempt))
  | failed {f : Failure} (outcome : x.target.outcome.result = .error f)
    (last : ¬ x.target.outcome.IsDenied ∨ more = 0) (login : x.login = none) :
    Ends s x more attempt (.error f.toError)
  | renewalFailed {c : Credentials} {e : Error} (denied : x.target.outcome.IsDenied)
    (left : 0 < more) (due : RenewalDue s x.state x.target.outcome c)
    (login : (Transaction.login s c x.state.tenant).Runs s.requestIds x.state x.login.toList
      (.error e) x.state) :
    Ends s x more attempt (.error (.reloginFailed e))

end Round

variable {s : Settings} {p : RequestPlan} {body : Option String} {st st' : AuthState}
  {history : List Exchange}

/-- Between two attempts a session is renewed if it has to be, and else nothing happens. -/
theorem runs_beforeRetry {f : Failure} {o : Outcome} {r : Result Unit}
    (ho : o.result = .error f) (h : (beforeRetry s st f).Runs st history r st') :
    ((∀ c, ¬ RenewalDue s st o c) ∧ history = [] ∧ r = .ok () ∧ st' = st) ∨
      ∃ c, RenewalDue s st o c ∧
        ((∃ e : Exchange, history = [e] ∧ e.LogsIn s c st st' ∧ r = .ok ()) ∨
          ∃ e, (Transaction.login s c st.tenant).Runs s.requestIds st history (.error e) st' ∧
            r = .error (.reloginFailed e)) := by
  have hunauthorized := Outcome.isUnauthorized_iff ho
  unfold beforeRetry at h
  split at h
  case isFalse hcond =>
    refine .inl ⟨fun c hdue => hcond ⟨hunauthorized.1 hdue.unauthorized, hdue.enabled⟩, ?_⟩
    exact Action.runs_pure.1 h
  case isTrue hcond =>
    unfold renewSession at h
    cases hc : st.credentials with
    | none =>
      rw [hc] at h
      refine .inl ⟨fun c hdue => ?_, Action.runs_pure.1 h⟩
      have hsome := hdue.credentials
      rw [hc] at hsome
      cases hsome
    | some c =>
      simp only [hc] at h
      split at h
      case isTrue hsessionless =>
        refine .inl ⟨fun d hdue => ?_, Action.runs_pure.1 h⟩
        obtain rfl : c = d := Option.some.inj (hc.symm.trans hdue.credentials)
        rw [hdue.sessions] at hsessionless
        cases hsessionless
      case isFalse hsessions =>
        refine .inr ⟨c, ⟨hunauthorized.2 hcond.1, hcond.2, hc, by simpa using hsessions⟩, ?_⟩
        obtain ⟨before, x, t, after, hlogin, h, rfl⟩ := Action.runs_attempt_bind.1 h
        rw [runs_relogin hc] at hlogin
        cases x with
        | ok _ =>
          obtain ⟨rfl, rfl, rfl⟩ := Action.runs_pure.1 h
          obtain ⟨id, now, later, e, hid, hrequest, rfl, hinstalls⟩ := hlogin.of_ok
          obtain ⟨hpost, haddress⟩ := Transaction.login_target hrequest
          exact .inl ⟨e, rfl, ⟨hpost, haddress, ⟨id, now, later, hid, hrequest⟩, hinstalls⟩, rfl⟩
        | error e =>
          obtain ⟨rfl, rfl, rfl⟩ := Action.runs_throw.1 h
          rw [List.append_nil]
          exact .inr ⟨e, hlogin, rfl⟩

/-- An attempt cannot be assembled, or it is sent; then the call ends or goes on with what may be
left. -/
theorem attempts_cases {more attempt : Nat} {r : Result (Reply × Nat)}
    (h : (attempts s p body more attempt).Runs st history r st') :
    (∃ id now e, (p.attempt body st).request s id now = .error e ∧ s.requestIds.Gives id ∧
        history = [] ∧ r = .error e ∧ st' = st) ∨
      ∃ target rest, history = target :: rest ∧
        (∃ id now, s.requestIds.Gives id ∧
          (p.attempt body st).request s id now = .ok target.request) ∧
        ((∃ reply, target.outcome.result = .ok reply ∧ rest = [] ∧ r = .ok (reply, attempt) ∧
            st' = st) ∨
          ∃ f, target.outcome.result = .error f ∧
            (((s.classifier.retries f attempt = false ∨ more = 0) ∧ rest = [] ∧
                r = .error f.toError ∧ st' = st) ∨
              ∃ left, s.classifier.retries f attempt = true ∧ more = left + 1 ∧
                Action.Runs (beforeRetry s st f >>= fun _ => attempts s p body left (attempt + 1))
                  st rest r st')) := by
  unfold attempts at h
  rw [Action.runs_getState_bind, Attempt.runs_prepare_bind] at h
  obtain ⟨id, now, hid, ⟨e, he, hend⟩ | ⟨request, hrequest, h⟩⟩ := h
  · exact .inl ⟨id, now, e, he, hid, hend⟩
  obtain ⟨before, x, t, after, hsend, h, rfl⟩ := Action.runs_program_bind.1 h
  obtain ⟨o, rfl, rfl, rfl⟩ := runs_send.1 hsend
  refine .inr ⟨⟨request, o⟩, after, rfl, ⟨id, now, hid, hrequest⟩, ?_⟩
  dsimp only
  cases ho : o.result with
  | ok reply =>
    rw [ho] at h
    exact .inl ⟨reply, rfl, Action.runs_pure.1 h⟩
  | error f =>
    rw [ho] at h
    refine .inr ⟨f, rfl, ?_⟩
    dsimp only at h
    split at h
    case isFalse hretries =>
      exact .inl ⟨.inl (by simpa using hretries), Action.runs_throw.1 h⟩
    case isTrue hretries =>
      cases more with
      | zero => exact .inl ⟨.inr rfl, Action.runs_throw.1 h⟩
      | succ left => exact .inr ⟨left, hretries, rfl, h⟩

/-- A fit attempt is sent; then the call ends or goes on with what may be left. -/
theorem runs_attempts {more attempt : Nat} {r : Result (Reply × Nat)}
    (hfit : (p.attempt body st).IsFit s)
    (h : (attempts s p body more attempt).Runs st history r st') :
    ∃ target rest, history = target :: rest ∧
      (∀ login, Round.IsAssembled ⟨st, target, login⟩ s p body) ∧
      ((∃ reply, target.outcome.result = .ok reply ∧ rest = [] ∧ r = .ok (reply, attempt) ∧
          st' = st) ∨
        ∃ f, target.outcome.result = .error f ∧
          (((s.classifier.retries f attempt = false ∨ more = 0) ∧ rest = [] ∧
              r = .error f.toError ∧ st' = st) ∨
            ∃ left, s.classifier.retries f attempt = true ∧ more = left + 1 ∧
              Action.Runs (beforeRetry s st f >>= fun _ => attempts s p body left (attempt + 1))
                st rest r st')) := by
  obtain ⟨id, now, e, he, hid, -⟩ | ⟨target, rest, rfl, ⟨id, now, hid, hrequest⟩, hend⟩ :=
    attempts_cases h
  · obtain ⟨request, hrequest⟩ := hfit id now hid
    cases he.symm.trans hrequest
  · obtain ⟨hmethod, hurl, hbody⟩ := Attempt.request_target hrequest
    exact ⟨target, rest, rfl, fun _ => ⟨hmethod, hurl, hbody, id, now, hid, hrequest⟩, hend⟩

/-- What is there to see of a call that makes its `attempt`-th attempt in the state `st`, while
`more` may follow. -/
structure Course (s : Settings) (p : RequestPlan) (body : Option String) (more attempt : Nat)
    (st : AuthState) (history : List Exchange) (r : Result (Reply × Nat)) (st' : AuthState)
    (rounds : List Round) (last : Round) : Prop where
  starts : ∀ x ∈ (rounds ++ [last]).head?, x.state = st
  assembled : ∀ x ∈ rounds ++ [last], x.IsAssembled s p body
  follows : (rounds ++ [last]).IsChain (Round.Follows s p)
  exchanges : history = (rounds ++ [last]).flatMap Round.exchanges
  bounded : rounds.length ≤ more
  ends : last.Ends s (more - rounds.length) (attempt + rounds.length) r
  leaves : st' = last.state

namespace Course

theorem single {more attempt : Nat} {r : Result (Reply × Nat)} {x : Round}
    (hassembled : x.IsAssembled s p body) (hends : x.Ends s more attempt r) :
    Course s p body more attempt x.state x.exchanges r x.state [] x where
  starts := by simp
  assembled := by simpa using hassembled
  follows := List.isChain_singleton x
  exchanges := by simp
  bounded := Nat.zero_le _
  ends := hends
  leaves := rfl

theorem cons {left attempt : Nat} {r : Result (Reply × Nat)} {x : Round} {t : AuthState}
    {rounds : List Round} {last : Round} (hassembled : x.IsAssembled s p body)
    (hfollows : ∀ y : Round, y.state = t → y.IsAssembled s p body → x.Follows s p y)
    (h : Course s p body left (attempt + 1) t history r st' rounds last) :
    Course s p body (left + 1) attempt x.state (x.exchanges ++ history) r st' (x :: rounds)
      last where
  starts := by simp
  assembled := List.forall_mem_cons.2 ⟨hassembled, h.assembled⟩
  follows := h.follows.cons fun y hy =>
    hfollows y (h.starts y hy) (h.assembled y (List.mem_of_mem_head? hy))
  exchanges := by rw [h.exchanges, List.cons_append, List.flatMap_cons]
  bounded := Nat.succ_le_succ h.bounded
  ends := by
    have hends := h.ends
    rw [List.length_cons, Nat.add_sub_add_right]
    rwa [Nat.add_right_comm, Nat.add_assoc] at hends
  leaves := h.leaves

theorem denied {more attempt : Nat} {r : Result (Reply × Nat)} {rounds : List Round} {last : Round}
    (h : Course s p body more attempt st history r st' rounds last) :
    ∀ x ∈ rounds, x.target.outcome.IsDenied := by
  intro x hx
  obtain ⟨before, after, rfl⟩ := List.append_of_mem hx
  have hchain := h.follows
  rw [List.append_assoc] at hchain
  have hafter := hchain.right_of_append
  cases after with
  | nil => exact (List.isChain_pair.1 hafter).1
  | cons y after => exact (List.isChain_cons_cons.1 hafter).1.1

end Course

theorem Round.IsAssembled.carriesHeaders {x : Round} (h : x.IsAssembled s p body)
    (hnone : x.state.sessionless? = none) : x.CarriesHeaders p := by
  obtain ⟨id, now, -, hrequest⟩ := h.request
  obtain ⟨auth, hauth, hheaders⟩ := Attempt.request_headers hrequest hnone
  refine ⟨auth, hauth, fun name hname hplan => hheaders name hname fun q hq => ?_⟩
  cases hq
  exact hplan

theorem Exchange.LogsIn.exists_reply {e : Exchange} {c : Credentials} (h : e.LogsIn s c st st') :
    ∃ reply, stateOfLogin s c st.tenant reply = .ok st' := by
  obtain ⟨reply, -, hstate⟩ := Result.bind_eq_ok.1 h.installs
  exact ⟨reply, hstate⟩

/-- Attempts that a limit on denials bounds make up a course. The induction is on the attempts
that are left, whose number and that of the attempts made add up to the limit. -/
theorem exists_course {limit more attempt : Nat} {r : Result (Reply × Nat)}
    (hclassifier : s.classifier = .denied limit) (hcount : more + attempt = limit + 1)
    (hfit : (p.attempt body st).IsFit s)
    (h : (attempts s p body more attempt).Runs st history r st') :
    ∃ rounds last, Course s p body more attempt st history r st' rounds last := by
  induction more using Nat.strongRecOn generalizing attempt st history with
  | ind more ih =>
    obtain ⟨target, rest, rfl, hassembled, hend⟩ := runs_attempts hfit h
    obtain ⟨reply, hreply, rfl, rfl, rfl⟩ | ⟨f, hf, hend⟩ := hend
    · obtain ⟨houtcome, hsuccess⟩ := Outcome.of_result_ok hreply
      exact ⟨[], _, Course.single (hassembled none) (.answered hsuccess houtcome rfl)⟩
    have hretries : s.classifier.retries f attempt = true ↔
        target.outcome.IsDenied ∧ attempt ≤ limit := by
      rw [hclassifier, Outcome.isDenied_iff hf]
      simp [Classifier.retries]
    obtain ⟨hstop, rfl, rfl, rfl⟩ | ⟨left, hagain, rfl, hnext⟩ := hend
    · refine ⟨[], _, Course.single (hassembled none) (.failed hf ?_ rfl)⟩
      rcases hstop with hno | hzero
      · by_cases hmore : more = 0
        · exact .inr hmore
        · refine .inl fun hdenied => ?_
          rw [hretries.2 ⟨hdenied, by omega⟩] at hno
          cases hno
      · exact .inr hzero
    obtain ⟨hdenied, -⟩ := hretries.1 hagain
    have hleft : left + (attempt + 1) = limit + 1 := by omega
    rw [Action.runs_bind] at hnext
    obtain ⟨e, hrenewal, rfl⟩ | ⟨before, _, t, after, hrenewal, hnext, rfl⟩ := hnext
    · obtain ⟨-, -, hr, -⟩ | ⟨c, hdue, ⟨_, -, -, hr⟩ | ⟨e', hlogin, hr⟩⟩ :=
        runs_beforeRetry hf hrenewal
      · cases hr
      · cases hr
      · cases hr
        obtain ⟨⟨sent, rfl⟩, rfl⟩ := hlogin.of_error
        exact ⟨[], _, Course.single (hassembled sent)
          (.renewalFailed hdenied (Nat.succ_pos left) hdue hlogin)⟩
    · obtain ⟨hnodue, rfl, -, rfl⟩ | ⟨c, hdue, ⟨e, rfl, hin, -⟩ | ⟨_, -, hr⟩⟩ :=
        runs_beforeRetry hf hrenewal
      · obtain ⟨rounds, last, hcourse⟩ := ih left (Nat.lt_succ_self left) hleft hfit hnext
        exact ⟨_, last, Course.cons (hassembled none)
          (fun y hy _ => ⟨hdenied, .inr ⟨hnodue, rfl, hy⟩⟩) hcourse⟩
      · obtain ⟨reply, hreply⟩ := hin.exists_reply
        have hrenewed : (p.attempt body t).IsFit s := hfit.after_login hdue.sessions hreply
        have hnone := AuthState.sessionless_of_stateOfLogin hdue.sessions hreply
        obtain ⟨rounds, last, hcourse⟩ := ih left (Nat.lt_succ_self left) hleft hrenewed hnext
        refine ⟨_, last, Course.cons (hassembled (some e)) (fun y hy hyassembled => ?_) hcourse⟩
        subst hy
        exact ⟨hdenied, .inl ⟨c, e, hdue, rfl, hin, hyassembled.carriesHeaders hnone⟩⟩
      · cases hr

/-- A call ends against every server, and each of its runs is a course of at most `limit + 1`
attempts: as many as there are up to the first reply that does not deny the request. -/
theorem execute_course {limit : Nat} (hclassifier : s.classifier = .denied limit)
    (hfit : (p.attempt body st).IsFit s) :
    (∀ server, ∃ history r st', (execute s p body).Runs st history r st' ∧
      AnsweredBy server history) ∧
    ∀ history r st', (execute s p body).Runs st history r st' → ∃ rounds last,
      (∀ x ∈ rounds, x.target.outcome.IsDenied) ∧
        Course s p body limit 1 st history r st' rounds last := by
  refine ⟨fun server => Action.exists_runs _ st server, fun history r st' h => ?_⟩
  unfold execute at h
  rw [hclassifier] at h
  obtain ⟨rounds, last, hcourse⟩ := exists_course hclassifier rfl hfit h
  exact ⟨rounds, last, hcourse.denied, hcourse⟩

/-- A session has expired: the first attempt is not authorized, one log-in renews the session, and
the second attempt, which carries the new token, succeeds. -/
theorem execute_course_of_expired : ∃ (s : Settings) (p : RequestPlan) (c : Credentials)
    (st st' : AuthState) (history : List Exchange) (reply : Reply) (x last : Round) (e : Exchange),
      s.classifier = .denied 1 ∧ (p.attempt none st).IsFit s ∧ st.token = some "expired" ∧
      (execute s p none).Runs st history (.ok (reply, 2)) st' ∧
      Course s p none 1 1 st history (.ok (reply, 2)) st' [x] last ∧
      history = [x.target, e, last.target] ∧ RenewalDue s st x.target.outcome c ∧
      e.LogsIn s c st last.state ∧ last.state.token = some "renewed" ∧
      last.target.request.headers.getAll Name.legacyToken = ["renewed"] := by
  let endpoint : Url :=
    ⟨"https".toList, some ⟨[], none, "vcd".toList, none⟩, .segments ["api".toList, []], none, none⟩
  let s : Settings := { Settings.ofEndpoint endpoint with requestIds := .off }
  let p : RequestPlan := .make .get endpoint
  let st : AuthState := { AuthState.empty with
    credentials := some (.basic ⟨"alice", "org", "secret"⟩)
    token := some "expired" }
  let welcome : Reply := ⟨.ok, ⟨[(Name.legacyToken, "renewed")]⟩, "\x7b\x7d"⟩
  let w : World := ⟨st, none, fun _ => 0, 0, default,
    .scripted [.reply ⟨.unauthorized, .empty, ""⟩, .reply welcome, .reply ⟨.ok, .empty, ""⟩]⟩
  have hsendable : st.Sendable := ⟨nofun, nofun, fun v hv => by cases hv; rfl, nofun⟩
  obtain ⟨auth, hauth⟩ := hsendable.exists_authHeaders rfl nofun
  have haccept : isHeaderValue (s.versioned Media.anyJson) = true := by decide +kernel
  have hfit : (p.attempt none st).IsFit s := Attempt.isFit_of_unsigned rfl rfl haccept rfl hauth
  obtain ⟨hattempts, htoken, hheaders⟩ : ((execute s p none).runIn w).1.map Prod.snd = .ok 2 ∧
      ((execute s p none).runIn w).2.auth.token = some "renewed" ∧
      (Program.exchanges (execute s p none).run w).map (·.request.headers.getAll Name.legacyToken) =
        [["expired"], [], ["renewed"]] := by
    decide +kernel
  have hrun := Action.runs_exchanges (execute s p none) w
  obtain ⟨rounds, last, -, hcourse⟩ := (execute_course rfl hfit).2 _ _ _ hrun
  generalize ((execute s p none).runIn w).1 = r at hattempts hrun hcourse
  generalize ((execute s p none).runIn w).2.auth = st' at htoken hrun hcourse
  generalize Program.exchanges (execute s p none).run w = history at hheaders hrun hcourse
  obtain ⟨hstarts, -, hfollows, hexchanges, -, hends, rfl⟩ := id hcourse
  cases hends with
  | failed => cases hattempts
  | renewalFailed => cases hattempts
  | answered success outcome hlogin =>
    obtain ⟨x, rfl⟩ : ∃ x, rounds = [x] := by
      rw [← List.length_eq_one_iff]
      exact Nat.add_left_cancel (Except.ok.inj hattempts)
    have hstart : x.state = st := hstarts x rfl
    obtain ⟨-, ⟨c, e, hdue, hrenewal, hin, -⟩ | ⟨-, hnone, -⟩⟩ := List.isChain_pair.1 hfollows
    · rw [hstart] at hdue hin
      have hhistory : history = [x.target, e, last.target] := by
        simpa [Round.exchanges, hrenewal, hlogin] using hexchanges
      refine ⟨s, p, c, _, _, history, _, x, last, e, rfl, hfit, rfl, hrun, hcourse, hhistory, hdue,
        hin, htoken, ?_⟩
      rw [hhistory] at hheaders
      simp only [List.map_cons, List.map_nil, List.cons.injEq, and_true] at hheaders
      exact hheaders.2.2
    · rw [hexchanges] at hheaders
      simp [Round.exchanges, hnone, hlogin] at hheaders

end CloudDirector
