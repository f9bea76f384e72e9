import CloudDirector.Proofs.Client.Steps

/-!
# How long a call goes on

Combined classifiers are trees, and all leaves of a tree count the same attempts, each with a limit
of its own. A failed request is sent again just if one of the leaves sends it again. A call is the
loop in which nothing but this decides, and it ends after as many attempts as the most generous
leaf allows, whatever becomes of them.
-/
namespace CloudDirector
open Http

namespace Classifier

mutual
def leaves : Classifier → List Classifier
  | .denied limit => [.denied limit]
  | .connection attempts => [.connection attempts]
  | .anyOf parts => leavesOf parts

/-- The leaves of some trees. -/
def leavesOf : List Classifier → List Classifier
  | [] => []
  | c :: cs => leaves c ++ leavesOf cs
end

def allowance : Classifier → Nat
  | .denied limit => limit + 1
  | .connection attempts => attempts
  | .anyOf _ => 0

/-- The most attempts that some leaves allow; one is always made. -/
def ceiling (leaves : List Classifier) : Nat := (leaves.map allowance).foldr max 1

/-- One of some leaves sends a request again after `attempt` attempts. -/
def SendsAgain (leaves : List Classifier) (f : Failure) (attempt : Nat) : Prop :=
  (isDenial f = true ∧ ∃ limit, .denied limit ∈ leaves ∧ attempt ≤ limit) ∨
    (f = .lost ∧ ∃ attempts, .connection attempts ∈ leaves ∧ attempt < attempts)

variable {f : Failure} {attempt : Nat}

theorem sendsAgain_append {as bs : List Classifier} :
    SendsAgain (as ++ bs) f attempt ↔ SendsAgain as f attempt ∨ SendsAgain bs f attempt := by
  unfold SendsAgain
  simp only [List.mem_append, or_and_right, exists_or, and_or_left]
  exact or_or_or_comm

mutual
/-- A tree sends a request again just if one of its leaves does. -/
theorem retries_iff : ∀ c : Classifier,
    c.retries f attempt = true ↔ SendsAgain c.leaves f attempt
  | .denied limit => by simp [retries, leaves, SendsAgain]
  | .connection attempts => by cases f <;> simp [retries, leaves, SendsAgain]
  | .anyOf parts => by
    rw [retries, leaves]
    exact anyRetries_iff parts

theorem anyRetries_iff : ∀ cs : List Classifier,
    anyRetries f attempt cs = true ↔ SendsAgain (leavesOf cs) f attempt
  | [] => by simp [anyRetries, leavesOf, SendsAgain]
  | c :: cs => by
    rw [anyRetries, leavesOf, sendsAgain_append, Bool.or_eq_true, retries_iff c, anyRetries_iff cs]
end

theorem ceiling_cons (c : Classifier) (cs : List Classifier) :
    ceiling (c :: cs) = max c.allowance (ceiling cs) := rfl

theorem one_le_ceiling (cs : List Classifier) : 1 ≤ ceiling cs := by
  induction cs with
  | nil => exact Nat.le_refl 1
  | cons c cs ih => exact Nat.le_trans ih (Nat.le_max_right _ _)

theorem ceiling_append (as bs : List Classifier) :
    ceiling (as ++ bs) = max (ceiling as) (ceiling bs) := by
  induction as with
  | nil => exact (Nat.max_eq_right (one_le_ceiling bs)).symm
  | cons a as ih => rw [List.cons_append, ceiling_cons, ceiling_cons, ih, Nat.max_assoc]

theorem allowance_le_ceiling {c : Classifier} {leaves : List Classifier} (h : c ∈ leaves) :
    c.allowance ≤ ceiling leaves := by
  obtain ⟨before, after, rfl⟩ := List.append_of_mem h
  rw [ceiling_append]
  exact Nat.le_trans (Nat.le_max_left _ _) (Nat.le_max_right _ _)

/-- After as many attempts as leaves allow none of them sends the request again. -/
theorem SendsAgain.lt_ceiling {leaves : List Classifier} (h : SendsAgain leaves f attempt) :
    attempt < ceiling leaves := by
  obtain ⟨-, limit, hleaf, hlimit⟩ | ⟨-, attempts, hleaf, hattempts⟩ := h
  · exact Nat.lt_of_lt_of_le (Nat.lt_succ_of_le hlimit) (allowance_le_ceiling hleaf)
  · exact Nat.lt_of_lt_of_le hattempts (allowance_le_ceiling hleaf)

mutual
theorem bound_eq : ∀ c : Classifier, c.bound = ceiling c.leaves
  | .denied limit => by simp [bound, leaves, ceiling, allowance]
  | .connection attempts => by simp [bound, leaves, ceiling, allowance, Nat.max_comm]
  | .anyOf parts => by
    rw [bound, leaves]
    exact boundOf_eq parts

theorem boundOf_eq : ∀ cs : List Classifier, boundOf cs = ceiling (leavesOf cs)
  | [] => rfl
  | c :: cs => by rw [boundOf, leavesOf, ceiling_append, bound_eq c, boundOf_eq cs]
end

theorem lt_bound_of_retries {c : Classifier} (h : c.retries f attempt = true) :
    attempt < c.bound := by
  rw [bound_eq]
  exact ((retries_iff c).1 h).lt_ceiling

end Classifier

variable {s : Settings} {p : RequestPlan} {body : Option String} {st st' : AuthState}
  {history : List Exchange}

/-- The `n`-th attempt of a call, after which only the classifier decides whether it goes on as
`again`. -/
def attemptThen (s : Settings) (p : RequestPlan) (body : Option String) (n : Nat)
    (again : Action (Reply × Nat)) : Action (Reply × Nat) := do
  let state ← Program.getState
  let request ← Attempt.prepare s (p.attempt body state)
  match ← send s request with
  | .ok reply => return (reply, n)
  | .error f =>
    if s.classifier.retries f n then
      beforeRetry s state f
      again
    else throw f.toError

/-- The number of attempts that are left never cuts a call short. -/
theorem attempts_eq (s : Settings) (p : RequestPlan) (body : Option String) (n : Nat) :
    attempts s p body (s.classifier.bound - n) n =
      attemptThen s p body n (attempts s p body (s.classifier.bound - (n + 1)) (n + 1)) := by
  cases hleft : s.classifier.bound - n with
  | zero =>
    have hstops (f : Failure) : s.classifier.retries f n = false := by
      rw [Bool.eq_false_iff]
      intro hretries
      have hlt := Classifier.lt_bound_of_retries hretries
      omega
    unfold attempts attemptThen
    simp only [hstops]
    rfl
  | succ left =>
    have hnext : s.classifier.bound - (n + 1) = left := by omega
    rw [hnext, attempts]
    rfl

/-- A call is a loop without an end of its own. -/
theorem exists_loop (s : Settings) (p : RequestPlan) (body : Option String) :
    ∃ loop : Nat → Action (Reply × Nat), execute s p body = loop 1 ∧
      ∀ n, loop n = attemptThen s p body n (loop (n + 1)) :=
  ⟨fun n => attempts s p body (s.classifier.bound - n) n, rfl, attempts_eq s p body⟩

/-- An attempt that is sent goes on with its outcome. -/
theorem runs_attemptThen {n : Nat} {again : Action (Reply × Nat)} {e : Exchange}
    {rest : List Exchange} {r : Result (Reply × Nat)} (sent : e.Attempts s p body st)
    (h : Action.Runs (match e.outcome.result with
      | .ok reply => pure (reply, n)
      | .error f =>
        if s.classifier.retries f n then beforeRetry s st f >>= fun _ => again
        else throw f.toError) st rest r st') :
    (attemptThen s p body n again).Runs st (e :: rest) r st' := by
  obtain ⟨id, now, hid, hrequest⟩ := sent
  unfold attemptThen
  rw [Action.runs_getState_bind, Attempt.runs_prepare_bind]
  refine ⟨id, now, hid, .inr ⟨e.request, hrequest, ?_⟩⟩
  exact Action.runs_program_bind.2 ⟨[e], e.outcome.result, st, rest, runs_send.2 ⟨_, rfl, rfl, rfl⟩,
    h, rfl⟩

theorem Http.Outcome.eq_lost {o : Outcome} (h : o.result = .error .lost) : o = .lost := by
  cases o with
  | reply reply =>
    change (if reply.status.isSuccess then _ else _) = _ at h
    split at h <;> cases h
  | timedOut => cases h
  | lost => rfl

/-- The rounds of a call from its `n`-th attempt on, how it ends and what it leaves. A failed
attempt is the last one just if the classifier says so, or the log-in after it fails. -/
inductive CallRounds (s : Settings) (p : RequestPlan) (body : Option String) :
    (n : Nat) → AuthState → List Round → Result (Reply × Nat) → AuthState → Prop
  | unfit {n : Nat} {st : AuthState} {id : String} {now : Time.Instant} {e : Error}
    (number : s.requestIds.Gives id) (fault : (p.attempt body st).request s id now = .error e) :
    CallRounds s p body n st [] (.error e) st
  | answered {n : Nat} {st : AuthState} {e : Exchange} {reply : Reply}
    (sent : e.Attempts s p body st) (outcome : e.outcome.result = .ok reply) :
    CallRounds s p body n st [⟨st, e, none⟩] (.ok (reply, n)) st
  | failed {n : Nat} {st : AuthState} {e : Exchange} {f : Failure} (sent : e.Attempts s p body st)
    (outcome : e.outcome.result = .error f) (stops : s.classifier.retries f n = false) :
    CallRounds s p body n st [⟨st, e, none⟩] (.error f.toError) st
  | renewalFailed {n : Nat} {st : AuthState} {e : Exchange} {f : Failure}
    {login : Option Exchange} {fault : Error} (sent : e.Attempts s p body st)
    (outcome : e.outcome.result = .error f) (retries : s.classifier.retries f n = true)
    (between : (beforeRetry s st f).Runs st login.toList (.error fault) st) :
    CallRounds s p body n st [⟨st, e, login⟩] (.error fault) st
  | again {n : Nat} {st t st' : AuthState} {e : Exchange} {f : Failure} {login : Option Exchange}
    {rounds : List Round} {r : Result (Reply × Nat)} (sent : e.Attempts s p body st)
    (outcome : e.outcome.result = .error f) (retries : s.classifier.retries f n = true)
    (between : (beforeRetry s st f).Runs st login.toList (.ok ()) t)
    (more : CallRounds s p body (n + 1) t rounds r st') :
    CallRounds s p body n st (⟨st, e, login⟩ :: rounds) r st'

/-- A log-in makes at most one exchange. -/
theorem exists_login_of_relogin {r : Result Unit} (h : (relogin s).Runs st history r st') :
    ∃ login : Option Exchange, history = login.toList := by
  have hway : (LoginWay.relogin.action s).Runs st history r st' := h
  obtain ⟨x, -, id, now, later, -, ⟨_, -, rfl, -⟩ | ⟨request, o, -, rfl, -⟩⟩ | ⟨-, rfl, -, -⟩ :=
    LoginWay.runs_cases hway
  · exact ⟨none, rfl⟩
  · exact ⟨some ⟨request, o⟩, rfl⟩
  · exact ⟨none, rfl⟩

/-- Every run of a call goes in rounds, if it is given as many attempts as its classifier allows.
The induction is on the attempts that are left. -/
theorem exists_rounds {more n : Nat} {r : Result (Reply × Nat)}
    (hmore : s.classifier.bound ≤ more + n)
    (h : (attempts s p body more n).Runs st history r st') :
    ∃ rounds, history = rounds.flatMap Round.exchanges ∧ CallRounds s p body n st rounds r st' := by
  induction more using Nat.strongRecOn generalizing n st history with
  | ind more ih =>
    obtain ⟨id, now, e, hfault, hid, rfl, rfl, rfl⟩ | ⟨target, rest, rfl, hsent, hend⟩ :=
      attempts_cases h
    · exact ⟨[], rfl, .unfit hid hfault⟩
    obtain ⟨reply, ho, rfl, rfl, rfl⟩ | ⟨f, ho, hend⟩ := hend
    · exact ⟨_, rfl, .answered hsent ho⟩
    obtain ⟨hstop, rfl, rfl, rfl⟩ | ⟨left, hretries, rfl, hnext⟩ := hend
    · refine ⟨_, rfl, .failed hsent ho ?_⟩
      rcases hstop with hno | rfl
      · exact hno
      · rw [Bool.eq_false_iff]
        intro hretries
        have hlt := Classifier.lt_bound_of_retries hretries
        omega
    have hleft : s.classifier.bound ≤ left + (n + 1) := by omega
    obtain ⟨e, hbefore, rfl⟩ | ⟨before, _, u, after, hbefore, hmore, rfl⟩ :=
      Action.runs_bind.1 hnext
    · rcases beforeRetry_cases hbefore with ⟨-, hr, -⟩ | ⟨-, hr⟩ | ⟨e, hlogin, hr, rfl⟩
      · cases hr
      · cases hr
      · cases hr
        obtain ⟨login, rfl⟩ := exists_login_of_relogin hlogin
        exact ⟨_, (List.append_nil _).symm, .renewalFailed hsent ho hretries hbefore⟩
    · obtain ⟨rounds, rfl, hrounds⟩ := ih left (Nat.lt_succ_self left) hleft hmore
      obtain ⟨login, rfl⟩ : ∃ login : Option Exchange, before = login.toList := by
        rcases beforeRetry_cases hbefore with ⟨rfl, -, -⟩ | ⟨hlogin, -⟩ | ⟨e, -, hr, -⟩
        · exact ⟨none, rfl⟩
        · exact exists_login_of_relogin hlogin
        · cases hr
      exact ⟨_, rfl, .again hsent ho hretries hbefore hrounds⟩

namespace CallRounds

variable {n : Nat} {rounds : List Round} {r : Result (Reply × Nat)}

/-- Whatever rounds there are, a call has a run that goes in them. -/
theorem runs (h : CallRounds s p body n st rounds r st') :
    (attempts s p body (s.classifier.bound - n) n).Runs st (rounds.flatMap Round.exchanges) r
      st' := by
  induction h with
  | @unfit n st id now e number fault =>
    rw [attempts_eq]
    unfold attemptThen
    rw [Action.runs_getState_bind, Attempt.runs_prepare_bind]
    exact ⟨id, now, number, .inl ⟨e, fault, rfl, rfl, rfl⟩⟩
  | answered sent outcome =>
    rw [attempts_eq]
    apply runs_attemptThen sent
    rw [outcome]
    exact Action.runs_pure.2 ⟨rfl, rfl, rfl⟩
  | failed sent outcome stops =>
    rw [attempts_eq]
    apply runs_attemptThen sent
    rw [outcome]
    dsimp only
    rw [stops]
    exact Action.runs_throw.2 ⟨rfl, rfl, rfl⟩
  | @renewalFailed n st e f login fault sent outcome retries between =>
    rw [attempts_eq, List.flatMap_singleton]
    apply runs_attemptThen sent
    rw [outcome]
    dsimp only
    rw [if_pos retries]
    exact Action.runs_bind.2 (.inl ⟨fault, between, rfl⟩)
  | again sent outcome retries between more ih =>
    rw [attempts_eq, List.flatMap_cons]
    apply runs_attemptThen sent
    rw [outcome]
    dsimp only
    rw [if_pos retries]
    exact Action.runs_bind.2 (.inr ⟨_, (), _, _, between, ih, rfl⟩)

/-- All but the last attempt failed and were sent again. -/
theorem retried (h : CallRounds s p body n st rounds r st') {i : Nat} {x : Round}
    (hx : rounds[i]? = some x) (hlast : i + 1 < rounds.length) :
    ∃ f, x.target.outcome.result = .error f ∧ s.classifier.retries f (n + i) = true := by
  induction h generalizing i with
  | unfit number fault => cases hx
  | answered sent outcome => exact absurd hlast (by simp)
  | failed sent outcome stops => exact absurd hlast (by simp)
  | renewalFailed sent outcome retries between => exact absurd hlast (by simp)
  | again sent outcome retries between more ih =>
    cases i with
    | zero =>
      cases hx
      exact ⟨_, outcome, retries⟩
    | succ i =>
      have hmore := ih hx (Nat.lt_of_succ_lt_succ hlast)
      rwa [Nat.add_right_comm] at hmore

/-- There are no more attempts than the leaves of the classifier allow. -/
theorem length_le (h : CallRounds s p body n st rounds r st') :
    rounds.length ≤ 1 ∨ n + rounds.length ≤ Classifier.ceiling s.classifier.leaves + 1 := by
  rcases Nat.lt_or_ge 1 rounds.length with hmany | hone
  · -- The last attempt but one was sent again.
    obtain ⟨x, hx⟩ : ∃ x, rounds[rounds.length - 2]? = some x :=
      ⟨_, List.getElem?_eq_getElem (by omega)⟩
    obtain ⟨f, -, hretries⟩ := h.retried hx (by omega)
    have hlt := ((Classifier.retries_iff _).1 hretries).lt_ceiling
    exact .inr (by omega)
  · exact .inl hone

/-- A request that gets lost each time is sent until the classifier gives up. -/
theorem of_lost (h : CallRounds s p body n st rounds r st') (hfit : (p.attempt body st).IsFit s)
    (hlost : ∀ x ∈ rounds, x.target.outcome = .lost) :
    ∃ i, rounds.length = i + 1 ∧ s.classifier.retries .lost (n + i) = false ∧
      r = .error .network := by
  induction h with
  | @unfit n st id now e number fault =>
    obtain ⟨request, hrequest⟩ := hfit id now number
    cases fault.symm.trans hrequest
  | answered sent outcome =>
    rw [hlost _ (List.mem_singleton.2 rfl)] at outcome
    cases outcome
  | failed sent outcome stops =>
    rw [hlost _ (List.mem_singleton.2 rfl)] at outcome
    cases outcome
    exact ⟨0, rfl, stops, rfl⟩
  | renewalFailed sent outcome retries between =>
    rw [hlost _ (List.mem_singleton.2 rfl)] at outcome
    cases outcome
    obtain ⟨-, hr, -⟩ := Action.runs_pure.1 between
    cases hr
  | again sent outcome retries between more ih =>
    obtain ⟨hfirst, hrest⟩ := List.forall_mem_cons.1 hlost
    rw [hfirst] at outcome
    cases outcome
    obtain ⟨-, -, rfl⟩ := Action.runs_pure.1 between
    obtain ⟨i, hlength, hstops, hr⟩ := ih hfit hrest
    refine ⟨i + 1, congrArg (· + 1) hlength, ?_, hr⟩
    rwa [Nat.add_right_comm] at hstops

end CallRounds

/-- The runs of a call are its rounds. -/
theorem runs_execute {r : Result (Reply × Nat)} : (execute s p body).Runs st history r st' ↔
    ∃ rounds, history = rounds.flatMap Round.exchanges ∧
      CallRounds s p body 1 st rounds r st' := by
  constructor
  · exact exists_rounds (by omega)
  · rintro ⟨rounds, rfl, hrounds⟩
    exact hrounds.runs

/-- A call is a loop that only its classifier ends. It ends against every server after as many
attempts as the leaves of the classifier allow, and a request is sent again just after a denial
within the limit of a leaf for denials, or after a loss within that of a leaf for lost requests. -/
theorem execute_limited (s : Settings) (p : RequestPlan) (body : Option String) :
    (∃ loop : Nat → Action (Reply × Nat), execute s p body = loop 1 ∧
      ∀ n, loop n = attemptThen s p body n (loop (n + 1))) ∧
    ∀ st, (execute s p body).Ensures st fun history r st' => ∃ rounds,
      CallRounds s p body 1 st rounds r st' ∧ history = rounds.flatMap Round.exchanges ∧
        rounds.length ≤ Classifier.ceiling s.classifier.leaves ∧
        ∀ i x, rounds[i]? = some x → i + 1 < rounds.length →
          (x.target.outcome.IsDenied ∧
              ∃ limit, .denied limit ∈ s.classifier.leaves ∧ i + 1 ≤ limit) ∨
            (x.target.outcome = .lost ∧
              ∃ attempts, .connection attempts ∈ s.classifier.leaves ∧ i + 1 < attempts) := by
  refine ⟨exists_loop s p body, fun st => Action.ensures_iff.2 fun history r st' h => ?_⟩
  obtain ⟨rounds, hhistory, hrounds⟩ := runs_execute.1 h
  refine ⟨rounds, hrounds, hhistory, ?_, fun i x hx hlast => ?_⟩
  · have hone := Classifier.one_le_ceiling s.classifier.leaves
    have hlength := hrounds.length_le
    omega
  · obtain ⟨f, hf, hretries⟩ := hrounds.retried hx hlast
    rw [Nat.add_comm] at hretries
    obtain ⟨hdenial, hlimit⟩ | ⟨rfl, hattempts⟩ := (Classifier.retries_iff _).1 hretries
    · exact .inl ⟨(Outcome.isDenied_iff hf).2 hdenial, hlimit⟩
    · exact .inr ⟨Outcome.eq_lost hf, hattempts⟩

/-- A nested classifier of which one leaf allows two attempts at a denied request and another three
at a lost one: if every request gets lost, then it is sent three times. -/
theorem execute_limited_of_lost : ∃ (s : Settings) (p : RequestPlan) (history : List Exchange)
    (st' : AuthState), s.classifier = .anyOf [.denied 1, .anyOf [.connection 3]] ∧
      AnsweredBy (fun _ _ => .lost) history ∧
      (execute s p none).Runs .empty history (.error .network) st' ∧
      ∃ rounds : List Round, history = rounds.flatMap Round.exchanges ∧ rounds.length = 3 := by
  let endpoint : Url :=
    ⟨"https".toList, some ⟨[], none, "vcd".toList, none⟩, .segments ["api".toList, []], none, none⟩
  let s : Settings := { Settings.ofEndpoint endpoint with
    requestIds := .off, classifier := .anyOf [.denied 1, .anyOf [.connection 3]] }
  let p : RequestPlan := .make .get endpoint
  have haccept : isHeaderValue (Media.anyJson ++ "" ++ "") = true := rfl
  have hfit : (p.attempt none .empty).IsFit s := Attempt.isFit_of_unsigned rfl rfl haccept rfl rfl
  obtain ⟨-, hensures⟩ := execute_limited s p none
  obtain ⟨hends, hruns⟩ := hensures .empty
  obtain ⟨history, r, st', hrun, hserver⟩ := hends fun _ _ => .lost
  obtain ⟨rounds, hrounds, rfl, hlimit, -⟩ := hruns history r st' hrun
  have hlost : ∀ x ∈ rounds, x.target.outcome = .lost := by
    intro x hx
    have hmem : x.target ∈ rounds.flatMap Round.exchanges :=
      List.mem_flatMap.2 ⟨x, hx, List.mem_cons_self⟩
    obtain ⟨i, hi⟩ := List.getElem?_of_mem hmem
    exact hserver i x.target hi
  obtain ⟨i, hlength, hstops, rfl⟩ := hrounds.of_lost hfit hlost
  have hceiling : Classifier.ceiling s.classifier.leaves = 3 := by decide
  have hsecond : i = 2 := by
    rw [hceiling] at hlimit
    obtain rfl | rfl | rfl : i = 0 ∨ i = 1 ∨ i = 2 := by omega
    · exact absurd hstops (by decide)
    · exact absurd hstops (by decide)
    · rfl
  exact ⟨s, p, _, st', rfl, hserver, hrun, rounds, rfl, by omega⟩

end CloudDirector
