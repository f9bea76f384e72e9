import CloudDirector.Proofs.Client.Retrying
import CloudDirector.Proofs.Session.Replacement

/-!
# The steps of a call

Whatever its classifier, a call makes one attempt after another. An attempt leaves the context as it
is. A log-in before the next attempt changes the context if it succeeds, and else ends the call.
-/
namespace CloudDirector
open Http

variable {s : Settings} {p : RequestPlan} {body : Option String} {st st' : AuthState}
  {history : List Exchange}

def Exchange.Attempts (e : Exchange) (s : Settings) (p : RequestPlan) (body : Option String)
    (st : AuthState) : Prop :=
  ∃ id now, s.requestIds.Gives id ∧ (p.attempt body st).request s id now = .ok e.request

theorem Exchange.Attempts.target {e : Exchange} (h : e.Attempts s p body st) :
    e.request.method = p.method ∧ e.request.url = p.fullUrl := by
  obtain ⟨id, now, -, hrequest⟩ := h
  obtain ⟨hmethod, hurl, -⟩ := Attempt.request_target hrequest
  exact ⟨hmethod, hurl⟩

/-- A call begins with an attempt in the state that it finds, unless none can be put together. -/
theorem execute_begins {r : Result (Reply × Nat)} (h : (execute s p body).Runs st history r st') :
    (history = [] ∧ ¬ (p.attempt body st).IsFit s) ∨
      ∃ first rest, history = first :: rest ∧ first.Attempts s p body st := by
  obtain ⟨id, now, e, he, hid, hnil, -⟩ | ⟨first, rest, hhistory, hsent, -⟩ := attempts_cases h
  · refine .inl ⟨hnil, fun hfit => ?_⟩
    obtain ⟨r, hr⟩ := hfit id now hid
    cases he.symm.trans hr
  · exact .inr ⟨first, rest, hhistory, hsent⟩

theorem not_isFit_of_execute {r : Result (Reply × Nat)}
    (h : (execute s p body).Runs st history r st') (hnil : history = []) :
    ¬ (p.attempt body st).IsFit s := by
  obtain ⟨-, hunfit⟩ | ⟨first, rest, hhistory, -⟩ := execute_begins h
  · exact hunfit
  · cases hnil.symm.trans hhistory

/-- What a call exchanges from its `n`-th attempt on, how it ends and what it leaves. -/
inductive CallSteps (s : Settings) (p : RequestPlan) (body : Option String) :
    (n : Nat) → AuthState → List Exchange → Result (Reply × Nat) → AuthState → Prop
  | unfit {n : Nat} {st : AuthState} {id : String} {now : Time.Instant} {e : Error}
    (fault : (p.attempt body st).request s id now = .error e) :
    CallSteps s p body n st [] (.error e) st
  | answered {n : Nat} {st : AuthState} {e : Exchange} {reply : Reply}
    (sent : e.Attempts s p body st) (outcome : e.outcome.result = .ok reply) :
    CallSteps s p body n st [e] (.ok (reply, n)) st
  | failed {n : Nat} {st : AuthState} {e : Exchange} {f : Failure}
    (sent : e.Attempts s p body st) (outcome : e.outcome.result = .error f) :
    CallSteps s p body n st [e] (.error f.toError) st
  | again {n : Nat} {st st' : AuthState} {e : Exchange} {f : Failure} {rest : List Exchange}
    {r : Result (Reply × Nat)} (sent : e.Attempts s p body st)
    (outcome : e.outcome.result = .error f) (retries : s.classifier.retries f n = true)
    (more : CallSteps s p body (n + 1) st rest r st') : CallSteps s p body n st (e :: rest) r st'
  | renewed {n : Nat} {st t st' : AuthState} {e : Exchange} {f : Failure}
    {login rest : List Exchange} {r : Result (Reply × Nat)} (sent : e.Attempts s p body st)
    (outcome : e.outcome.result = .error f) (retries : s.classifier.retries f n = true)
    (renewal : (relogin s).Runs st login (.ok ()) t)
    (more : CallSteps s p body (n + 1) t rest r st') :
    CallSteps s p body n st (e :: (login ++ rest)) r st'
  | renewalFailed {n : Nat} {st : AuthState} {e : Exchange} {f : Failure} {login : List Exchange}
    {fault : Error} (sent : e.Attempts s p body st) (outcome : e.outcome.result = .error f)
    (retries : s.classifier.retries f n = true)
    (renewal : (relogin s).Runs st login (.error fault) st) :
    CallSteps s p body n st (e :: login) (.error (.reloginFailed fault)) st

/-- Between two attempts there is nothing, or a log-in whose failure is passed on. -/
theorem beforeRetry_cases {x : AuthState} {f : Failure} {r : Result Unit}
    (h : (beforeRetry s x f).Runs st history r st') :
    (history = [] ∧ r = .ok () ∧ st' = st) ∨
      ((relogin s).Runs st history (.ok ()) st' ∧ r = .ok ()) ∨
      ∃ e, (relogin s).Runs st history (.error e) st ∧ r = .error (.reloginFailed e) ∧ st' = st := by
  unfold beforeRetry at h
  split at h
  case isFalse => exact .inl (Action.runs_pure.1 h)
  case isTrue =>
    unfold renewSession at h
    split at h
    case h_2 => exact .inl (Action.runs_pure.1 h)
    case h_1 c _ =>
      split at h
      case isTrue => exact .inl (Action.runs_pure.1 h)
      case isFalse =>
        refine .inr ?_
        obtain ⟨before, x, t, after, hlogin, h, rfl⟩ := Action.runs_attempt_bind.1 h
        cases x with
        | ok _ =>
          obtain ⟨rfl, rfl, rfl⟩ := Action.runs_pure.1 h
          rw [List.append_nil]
          exact .inl ⟨hlogin, rfl⟩
        | error e =>
          obtain ⟨rfl, rfl, rfl⟩ := Action.runs_throw.1 h
          rw [List.append_nil]
          obtain ⟨hsame, -⟩ := LoginWay.relogin.unchanged_of_error hlogin
          exact .inr ⟨e, hsame ▸ hlogin, rfl, hsame⟩

/-- Every run of a call takes its steps. The induction is on the attempts that are left. -/
theorem steps_of_attempts {more n : Nat} {r : Result (Reply × Nat)}
    (h : (attempts s p body more n).Runs st history r st') :
    CallSteps s p body n st history r st' := by
  induction more using Nat.strongRecOn generalizing n st history with
  | ind more ih =>
    obtain ⟨id, now, e, hfault, -, rfl, rfl, rfl⟩ | ⟨target, rest, rfl, hsent, hend⟩ :=
      attempts_cases h
    · exact .unfit hfault
    obtain ⟨reply, ho, rfl, rfl, rfl⟩ | ⟨f, ho, ⟨-, rfl, rfl, rfl⟩ | ⟨left, hretries, rfl, hnext⟩⟩ :=
      hend
    · exact .answered hsent ho
    · exact .failed hsent ho
    obtain ⟨e, hbefore, rfl⟩ | ⟨login, _, u, after, hbefore, hmore, rfl⟩ := Action.runs_bind.1 hnext
    · rcases beforeRetry_cases hbefore with ⟨-, hr, -⟩ | ⟨-, hr⟩ | ⟨e, hlogin, hr, rfl⟩
      · cases hr
      · cases hr
      · cases hr
        exact .renewalFailed hsent ho hretries hlogin
    · have hrest := ih left (Nat.lt_succ_self left) hmore
      rcases beforeRetry_cases hbefore with ⟨rfl, -, rfl⟩ | ⟨hlogin, -⟩ | ⟨e, -, hr, -⟩
      · exact .again hsent ho hretries hrest
      · exact .renewed hsent ho hretries hlogin hrest
      · cases hr

end CloudDirector
