import CloudDirector.Proofs.Client.Retrying
import CloudDirector.Proofs.Program.Lockstep

/-!
# Where credentials and sessions show

Credentials that make sessions show in log-ins only: states that differ in nothing but such
credentials make the same requests, until a session has to be renewed. And a session shows in no
log-in: what a log-in posts depends on the tenant alone, besides the credentials it is given.
-/
namespace CloudDirector
open Http Time

variable {s : Settings} {related : AuthState → AuthState → Prop} {stops : Outcome → Prop}

theorem Attempt.lockstep_prepare (a : Attempt) :
    Action.Lockstep related stops (a.prepare s) (a.prepare s) := by
  unfold Attempt.prepare
  apply (Action.lockstep_result _).bind
  intro opening
  apply (Action.lockstep_program (.drawId fun id => .done id)).bind
  intro id
  apply (Action.lockstep_program (.clock fun now => .done now)).bind
  intro now
  exact Action.lockstep_result _

theorem lockstep_send_bind {α : Type} {r : Request} {use use' : Except Failure Reply → Action α}
    (huse : ∀ o, ¬ stops o → Action.Lockstep related stops (use o.result) (use' o.result)) :
    Action.Lockstep related stops (liftM (send s r) >>= use) (liftM (send s r) >>= use') :=
  .exchange huse

theorem lockstep_sendExpecting (expected : Status) (r : Request) :
    Action.Lockstep related stops (sendExpecting s expected r) (sendExpecting s expected r) := by
  unfold sendExpecting
  apply lockstep_send_bind
  intro o _
  cases o.result with
  | ok reply => exact Action.lockstep_result _
  | error f => exact Action.lockstep_throw _

/-- A request with the header of a log-in is the same, whatever the context holds. -/
theorem lockstep_signed_exchange {α : Type} {a : Attempt} {c : Credentials} {expected : Status}
    {use : Reply → Action α} (huse : ∀ reply, Action.Lockstep related stops (use reply) (use reply)) :
    let action : Action α := do
      let bare ← a.prepare s
      let request ← withLoginHeader c (← Program.now) bare
      sendExpecting s expected request >>= use
    Action.Lockstep related stops action action := by
  apply (Attempt.lockstep_prepare a).bind
  intro bare
  apply (Action.lockstep_program (.clock fun now => .done now)).bind
  intro now
  apply (Action.lockstep_result _).bind
  intro request
  exact (lockstep_sendExpecting expected request).bind huse

def AuthState.SameTenant (x y : AuthState) : Prop := x.tenant = y.tenant

theorem lockstep_login (c : Credentials) :
    Action.Lockstep AuthState.SameTenant stops (login s c) (login s c) := by
  unfold login
  apply (Action.lockstep_result _).bind
  intro url
  apply Action.lockstep_getState_bind
  intro x y hxy
  rw [show x.tenant = y.tenant from hxy]
  apply lockstep_signed_exchange
  intro reply
  apply (Action.lockstep_result _).bind
  intro t
  exact Action.lockstep_modify fun _ _ _ => rfl

theorem lockstep_openApi_login (root : Url) (c : Credentials) :
    Action.Lockstep AuthState.SameTenant stops (OpenApi.login s root c) (OpenApi.login s root c) := by
  unfold OpenApi.login
  apply (Action.lockstep_result _).bind
  intro p
  apply Action.lockstep_getState_bind
  intro x y hxy
  rw [show x.tenant = y.tenant from hxy]
  apply lockstep_signed_exchange
  intro reply
  cases filledHeader reply Name.accessToken with
  | none => exact Action.lockstep_throw _
  | some jwt => exact Action.lockstep_modify fun x y hxy => hxy

def AuthState.withCredentials (x : AuthState) (c : Option Credentials) : AuthState :=
  { x with credentials := c }

/-- Two states differ at most in credentials, and neither holds any that authenticate requests by
themselves. -/
structure AuthState.DiffersInLogin (x y : AuthState) : Prop where
  same : y = x.withCredentials y.credentials
  sessions : x.sessionless? = none
  sessions' : y.sessionless? = none

namespace AuthState.DiffersInLogin

variable {x y : AuthState} {method : Method} {url : Url} {plan : Option RequestPlan}
  {body : Option String}

theorem authHeaders (h : x.DiffersInLogin y) : x.authHeaders = y.authHeaders := by
  obtain ⟨hsame, hx, hy⟩ := h
  unfold AuthState.authHeaders identityHeaders cookieText
  rw [hx, hy, hsame]
  rfl

theorem closing (h : x.DiffersInLogin y) (opening : Headers) (id : String) (now : Instant) :
    Attempt.closing ⟨x, method, url, plan, body⟩ opening id now =
      Attempt.closing ⟨y, method, url, plan, body⟩ opening id now := by
  unfold Attempt.closing
  dsimp only
  rw [h.authHeaders, h.sessions, h.sessions']

/-- The opening headers look at no state. -/
theorem openingHeaders (_ : x.DiffersInLogin y) :
    Attempt.openingHeaders s ⟨x, method, url, plan, body⟩ =
      Attempt.openingHeaders s ⟨y, method, url, plan, body⟩ := rfl

theorem request (h : x.DiffersInLogin y) (id : String) (now : Instant) :
    Attempt.request s ⟨x, method, url, plan, body⟩ id now =
      Attempt.request s ⟨y, method, url, plan, body⟩ id now := by
  unfold Attempt.request
  rw [h.openingHeaders]
  simp only [h.closing]

theorem prepare (h : x.DiffersInLogin y) :
    Attempt.prepare s ⟨x, method, url, plan, body⟩ =
      Attempt.prepare s ⟨y, method, url, plan, body⟩ := by
  unfold Attempt.prepare
  rw [h.openingHeaders]
  simp only [h.closing]

end AuthState.DiffersInLogin

/-- Nothing is done before a retry whose attempt was not refused for want of authentication. -/
theorem beforeRetry_of_authorized {st : AuthState} {o : Outcome} {f : Failure}
    (ho : o.result = .error f) (hgo : ¬ o.IsUnauthorized) : beforeRetry s st f = pure () := by
  rw [Outcome.isUnauthorized_iff ho] at hgo
  unfold beforeRetry
  rw [if_neg fun h => hgo h.1]

/-- Attempts go together until authentication is missing. The induction is on the attempts that
are left. -/
theorem lockstep_attempts (p : RequestPlan) (body : Option String) (more attempt : Nat) :
    Action.Lockstep AuthState.DiffersInLogin Outcome.IsUnauthorized
      (attempts s p body more attempt) (attempts s p body more attempt) := by
  induction more using Nat.strongRecOn generalizing attempt with
  | ind more ih =>
    unfold attempts
    apply Action.lockstep_getState_bind
    intro x y hxy
    rw [hxy.prepare]
    apply (Attempt.lockstep_prepare _).bind
    intro request
    apply lockstep_send_bind
    intro o hgo
    cases hresult : o.result with
    | ok reply => exact Action.lockstep_pure _
    | error f =>
      dsimp only
      split
      · cases more with
        | zero => exact Action.lockstep_throw _
        | succ left =>
          dsimp only
          rw [beforeRetry_of_authorized hresult hgo, beforeRetry_of_authorized hresult hgo]
          exact ih left (Nat.lt_succ_self left) (attempt + 1)
      · exact Action.lockstep_throw _

/-- In two worlds an action exchanges the same and ends with the same result. -/
def Action.SameIn {α : Type} (a : Action α) (w w' : World) : Prop :=
  a.run.exchanges w = a.run.exchanges w' ∧ (a.runIn w).1 = (a.runIn w').1

theorem Action.Lockstep.sameIn {α : Type} {a : Action α} {x y : AuthState}
    (h : Action.Lockstep related (fun _ => False) a a) (hxy : related x y) (w : World) :
    a.SameIn (w.withAuth x) (w.withAuth y) := by
  obtain ⟨hexchanges, r, w', x', y', -, hx, hy⟩ := Program.Lockstep.run h hxy w fun _ _ => id
  refine ⟨hexchanges, ?_⟩
  unfold runIn
  rw [hx, hy]

/-- Credentials that make sessions show in no request of a call until a session has to be renewed,
and nothing that a context holds besides its tenant shows in a log-in. -/
theorem credentials_confined (s : Settings) :
    (∀ x y : AuthState, x.DiffersInLogin y →
      x.authHeaders = y.authHeaders ∧
      (∀ method url plan body,
        Attempt.prepare s ⟨x, method, url, plan, body⟩ =
            Attempt.prepare s ⟨y, method, url, plan, body⟩ ∧
          ∀ id now, Attempt.request s ⟨x, method, url, plan, body⟩ id now =
            Attempt.request s ⟨y, method, url, plan, body⟩ id now) ∧
      ∀ p body (w : World) n, (∀ e ∈ ((execute s p body).run.exchanges (w.withAuth x)).take n,
          ¬ e.outcome.IsUnauthorized) →
        ((execute s p body).run.exchanges (w.withAuth x)).take (n + 1) =
          ((execute s p body).run.exchanges (w.withAuth y)).take (n + 1)) ∧
    ∀ (x y : AuthState) (w : World) (c : Credentials), x.tenant = y.tenant →
      (login s c).SameIn (w.withAuth x) (w.withAuth y) ∧
      ∀ root, (OpenApi.login s root c).SameIn (w.withAuth x) (w.withAuth y) := by
  refine ⟨fun x y hxy => ⟨hxy.authHeaders, fun _ _ _ _ => ⟨hxy.prepare, hxy.request⟩, ?_⟩, ?_⟩
  · intro p body w n hn
    exact Program.Lockstep.take_exchanges (lockstep_attempts p body _ 1) hxy w n hn
  · intro x y w c hxy
    exact ⟨(lockstep_login c).sameIn hxy w, fun root => (lockstep_openApi_login root c).sameIn hxy w⟩

/-- The requests of a session are the same with the password of a user and with the token of a
provider, and so is a later log-in, also after the session is gone. -/
theorem credentials_confined_of_session : ∃ (s : Settings) (w : World) (x y : AuthState)
    (p : RequestPlan) (e : Exchange),
      x.credentials = some (.basic ⟨"alice", "org", "secret"⟩) ∧
      y.credentials = some (.provider (.bearer ⟨"secret", "org"⟩)) ∧
      x.authHeaders = y.authHeaders ∧
      ((execute s p none).run.exchanges (w.withAuth x)).take 1 = [e] ∧
      ((execute s p none).run.exchanges (w.withAuth y)).take 1 = [e] ∧
      e.request.headers.getAll Name.legacyToken = ["token"] ∧
      ∀ c, (login s c).SameIn (w.withAuth x) (w.withAuth .empty) := by
  let endpoint : Url :=
    ⟨"https".toList, some ⟨[], none, "vcd".toList, none⟩, .segments ["api".toList, []], none, none⟩
  let s : Settings := { Settings.ofEndpoint endpoint with requestIds := .off }
  let x : AuthState := { AuthState.empty with
    credentials := some (.basic ⟨"alice", "org", "secret"⟩), token := some "token" }
  let y : AuthState := x.withCredentials (some (.provider (.bearer ⟨"secret", "org"⟩)))
  let w : World := ⟨.empty, none, fun _ => 0, 0, default, .scripted []⟩
  let p : RequestPlan := .make .get endpoint
  obtain ⟨hcalls, hlogins⟩ := credentials_confined s
  obtain ⟨hauth, -, hexecute⟩ := hcalls x y ⟨rfl, rfl, rfl⟩
  have hsame := hexecute p none w 0 nofun
  have hone : ((execute s p none).run.exchanges (w.withAuth x)).map
      (fun e => e.request.headers.getAll Name.legacyToken) = [["token"]] := by
    decide +kernel
  obtain ⟨e, he, htoken⟩ : ∃ e, (execute s p none).run.exchanges (w.withAuth x) = [e] ∧
      e.request.headers.getAll Name.legacyToken = ["token"] := by
    obtain ⟨e, rest, he, htoken, hrest⟩ := List.map_eq_cons_iff.1 hone
    rw [List.map_eq_nil_iff.1 hrest] at he
    exact ⟨e, he, htoken⟩
  refine ⟨s, w, x, y, p, e, rfl, rfl, hauth, by rw [he]; rfl, ?_, htoken, fun c => ?_⟩
  · rw [← hsame, he]
    rfl
  · exact (hlogins x .empty w c rfl).1

end CloudDirector
