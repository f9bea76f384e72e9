import CloudDirector.Proofs.Client.Steps

/-!
# All or nothing

An operation on a session that fails leaves the context as it was, wherever it fails. A call that
logs in again on its way changes the context by log-ins that succeed and by nothing else, and ends
with the first that fails. A duplicate leaves the context of its original alone. A log-out is no
such operation: it clears the context whatever becomes of its only request.
-/
namespace CloudDirector
open Http

variable {s : Settings} {st st' : AuthState} {history : List Exchange}

/-- A log-out makes at most one request, which deletes the session. -/
theorem runs_deleteSession {r : Result Unit} (h : (deleteSession s).Runs st history r st') :
    st' = st ∧ ((history = [] ∧ r ≠ .ok ()) ∨ ∃ e, history = [e] ∧ e.request.method = .delete ∧
      s.apiUrl sessionPath = .ok e.request.url ∧
        r = discard (e.outcome.expect ⟨204⟩)) := by
  unfold deleteSession at h
  cases hurl : s.apiUrl sessionPath with
  | error e =>
    rw [hurl, Action.runs_error_bind] at h
    obtain ⟨rfl, rfl, rfl⟩ := h
    exact ⟨rfl, .inl ⟨rfl, nofun⟩⟩
  | ok url =>
    rw [hurl, Action.runs_ok_bind, Action.runs_getState_bind, Attempt.runs_prepare_bind] at h
    obtain ⟨id, now, -, ⟨e, -, rfl, rfl, rfl⟩ | ⟨request, hrequest, h⟩⟩ := h
    · exact ⟨rfl, .inl ⟨rfl, nofun⟩⟩
    obtain ⟨hmethod, haddress, -⟩ := Attempt.request_target hrequest
    change Action.Runs (sendExpecting s ⟨204⟩ request >>= fun _ => pure ()) st history r st' at h
    obtain ⟨o, rest, rfl, ⟨e, ho, rfl, rfl, rfl⟩ | ⟨reply, ho, h⟩⟩ := runs_sendExpecting_bind.1 h
    · exact ⟨rfl, .inr ⟨_, rfl, hmethod, by rw [haddress], by rw [ho]; rfl⟩⟩
    · obtain ⟨rfl, rfl, rfl⟩ := Action.runs_pure.1 h
      exact ⟨rfl, .inr ⟨_, rfl, hmethod, by rw [haddress], by rw [ho]; rfl⟩⟩

theorem runs_logout {r : Result Unit} (h : (logout s).Runs st history r st') :
    (deleteSession s).Runs st history r st ∧ st' = st.cleared := by
  unfold logout at h
  obtain ⟨before, x, t, after, hdelete, hclear, rfl⟩ := Action.runs_attempt_bind.1 h
  obtain ⟨rfl, -⟩ := runs_deleteSession hdelete
  obtain ⟨_, hmodify, -⟩ | ⟨_, _, u, _, hmodify, hresult, rfl⟩ := Action.runs_bind.1 hclear
  · cases (Action.runs_modify.1 hmodify).2.1
  obtain ⟨rfl, -, rfl⟩ := Action.runs_modify.1 hmodify
  obtain ⟨rfl, rfl, rfl⟩ := Action.runs_result.1 hresult
  rw [List.append_nil, List.append_nil]
  exact ⟨hdelete, rfl⟩

theorem runs_duplicate {newSession : Bool} {r : Result AuthState}
    (h : (duplicate s newSession).Runs st history r st') : st' = st ∧ ∀ t, r = .ok t →
      (joinAs s newSession st).Runs (.ofTenant st.tenant) history (.ok ()) t := by
  unfold duplicate at h
  cases hcheck : s.connection.check with
  | error e =>
    rw [hcheck] at h
    obtain ⟨rfl, rfl, rfl⟩ := Action.runs_error_bind.1 h
    refine ⟨rfl, fun t ht => ?_⟩
    cases ht
  | ok _ =>
    rw [hcheck] at h
    have hjoining := Action.runs_getState_bind.1 (Action.runs_ok_bind.1 h)
    obtain ⟨before, ⟨result, state⟩, t, after, hisolated, hresult, rfl⟩ :=
      Action.runs_program_bind.1 hjoining
    obtain ⟨hjoin, rfl⟩ := Program.runs_isolate hisolated
    cases result with
    | error e =>
      obtain ⟨rfl, rfl, rfl⟩ := Action.runs_error_bind.1 hresult
      refine ⟨rfl, fun t ht => ?_⟩
      cases ht
    | ok _ =>
      obtain ⟨rfl, rfl, rfl⟩ := Action.runs_pure.1 (Action.runs_ok_bind.1 hresult)
      refine ⟨rfl, ?_⟩
      rintro _ ⟨⟩
      rw [List.append_nil]
      unfold Action.Runs
      exact hjoin

/-- Whatever server a client talks to, its session operations end, and a failure leaves nothing. -/
theorem session_atomic (s : Settings) (st : AuthState) :
    (∀ way : LoginWay, (way.action s).Ensures st fun history r st' =>
      (∀ e, r = .error e → st' = st ∧ history.length ≤ 1) ∧
        (r = .ok () → ∃ x e, way.transaction s st = some x ∧ history = [e] ∧
          x.state e.outcome = .ok st')) ∧
    (∀ p body, (execute s p body).Ensures st (CallSteps s p body 1 st)) ∧
    (∀ newSession, (duplicate s newSession).Ensures st fun history r st' =>
      st' = st ∧ ∀ t, r = .ok t →
        (joinAs s newSession st).Runs (.ofTenant st.tenant) history (.ok ()) t) ∧
    (logout s).Ensures st fun history r st' =>
      st' = ⟨st.credentials, none, none, st.tenant, none, [], none⟩ ∧
        ((history = [] ∧ r ≠ .ok ()) ∨ ∃ e, history = [e] ∧ e.request.method = .delete ∧
          s.apiUrl sessionPath = .ok e.request.url ∧ r = discard (e.outcome.expect ⟨204⟩)) := by
  simp only [Action.ensures_iff]
  refine ⟨fun way history r st' h => ⟨?_, ?_⟩, ?_, ?_, ?_⟩
  · rintro e rfl
    exact way.unchanged_of_error h
  · rintro rfl
    exact LoginWay.state_of_runs h
  · exact fun p body history r st' h => steps_of_attempts h
  · exact fun newSession history r st' h => runs_duplicate h
  · intro history r st' h
    obtain ⟨hdelete, rfl⟩ := runs_logout h
    exact ⟨rfl, (runs_deleteSession hdelete).2⟩

end CloudDirector
