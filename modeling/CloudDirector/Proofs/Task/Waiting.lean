import CloudDirector.Proofs.Session.References
import CloudDirector.Task.Wait

/-!
# Waiting for a task

A wait follows a task from snapshot to snapshot, each fetched once where the one before it says
the task is. It is over with the first snapshot of a task that has ended, which decides the result,
or with the first fetch that fails; only patience can cut it short.
-/
namespace CloudDirector.Task
open Http

variable {s : Settings} {patience : Nat} {t last : Task} {st st' : AuthState}
  {snapshots : List Task} {history : List Exchange}

/-- The result that a task comes to when it has ended. -/
inductive Ends (t : Task) : Result Task → Prop
  | succeeded (status : t.status = .success) : Ends t (.ok t)
  | failed (status : t.status = .error ∨ t.status = .aborted) :
    Ends t (.error (.taskFailed t.urn t.status t.owner t.error))
  | canceled (status : t.status = .canceled) : Ends t (.error (.taskCanceled t.urn t.owner))

-- The code takes every state that it does not name for success, also those of a task that goes on.
theorem ends_iff {x : Result Task} : t.Ends x ↔ t.status.isTerminal = true ∧ x = t.outcome := by
  constructor
  · rintro (status | status | status)
    · simp [outcome, status, TaskStatus.isTerminal]
    · rcases status with status | status <;> simp [outcome, status, TaskStatus.isTerminal]
    · simp [outcome, status, TaskStatus.isTerminal]
  · rintro ⟨hterminal, rfl⟩
    cases hstatus : t.status with
    | success => simpa [outcome, hstatus] using Ends.succeeded hstatus
    | error => simpa [outcome, hstatus] using Ends.failed (.inl hstatus)
    | aborted => simpa [outcome, hstatus] using Ends.failed (.inr hstatus)
    | canceled => simpa [outcome, hstatus] using Ends.canceled hstatus
    | _ => simp [hstatus, TaskStatus.isTerminal] at hterminal

/-- A fetch of a snapshot is one call that reads a task at an address. -/
def Fetched (s : Settings) (href : String) (st : AuthState) (history : List Exchange)
    (x : Result Task) (st' : AuthState) : Prop :=
  ∃ answer, CallsOnce s Task.ofDocument href (some Media.task) st history answer st' ∧
    x = answer.map Response.data

theorem runs_fetchTask {href : String} {x : Result Task} :
    (fetchTask s href).Runs st history x st' ↔ Fetched s href st history x st' := by
  unfold fetchTask getTyped Fetched
  rw [Action.runs_bind]
  simp only [runs_getAs]
  constructor
  · rintro (⟨e, hcall, rfl⟩ | ⟨before, response, u, after, hcall, hend, rfl⟩)
    · exact ⟨_, hcall, rfl⟩
    · obtain ⟨rfl, rfl, rfl⟩ := Action.runs_pure.1 hend
      rw [List.append_nil]
      exact ⟨_, hcall, rfl⟩
  · rintro ⟨answer, hcall, rfl⟩
    cases answer with
    | error e => exact .inl ⟨e, hcall, rfl⟩
    | ok response =>
      exact .inr ⟨history, response, st', [], hcall, Action.runs_pure.2 ⟨rfl, rfl, rfl⟩,
        (List.append_nil history).symm⟩

/-- From a snapshot on, `snapshots` are fetched one after the other while the task has not ended;
`last` is the latest of all. -/
inductive Follows (s : Settings) :
    Task → AuthState → List Task → List Exchange → Task → AuthState → Prop
  | here {t : Task} {st : AuthState} : Follows s t st [] [] t st
  | on {t next last : Task} {st u st' : AuthState} {before after : List Exchange}
    {snapshots : List Task} (running : t.status.isTerminal = false)
    (fetch : Fetched s t.href st before (.ok next) u)
    (more : Follows s next u snapshots after last st') :
    Follows s t st (next :: snapshots) (before ++ after) last st'

/-- How a wait ends. -/
inductive Waits (s : Settings) (patience : Nat) (t : Task) (st : AuthState) :
    List Exchange → Result (Option Task) → AuthState → Prop
  | ended {snapshots : List Task} {history : List Exchange} {last : Task} {st' : AuthState}
    {x : Result Task} (follows : Follows s t st snapshots history last st')
    (patient : snapshots.length ≤ patience) (ends : last.Ends x) :
    Waits s patience t st history (x.map some) st'
  | failed {snapshots : List Task} {before after : List Exchange} {last : Task} {u st' : AuthState}
    {e : Error} (follows : Follows s t st snapshots before last u)
    (patient : snapshots.length < patience) (running : last.status.isTerminal = false)
    (fetch : Fetched s last.href u after (.error e) st') :
    Waits s patience t st (before ++ after) (.error e) st'
  | impatient {snapshots : List Task} {history : List Exchange} {last : Task} {st' : AuthState}
    (follows : Follows s t st snapshots history last st') (all : snapshots.length = patience)
    (running : last.status.isTerminal = false) : Waits s patience t st history (.ok none) st'

theorem Follows.of_terminal (hterminal : t.status.isTerminal = true)
    (h : Follows s t st snapshots history last st') :
    snapshots = [] ∧ history = [] ∧ last = t ∧ st' = st := by
  cases h with
  | here => exact ⟨rfl, rfl, rfl, rfl⟩
  | on running => simp [hterminal] at running

/-- Nothing is asked about a task that has ended. -/
theorem waits_of_terminal {r : Result (Option Task)} (hterminal : t.status.isTerminal = true) :
    Waits s patience t st history r st' ↔
      history = [] ∧ r = t.outcome.map some ∧ st' = st := by
  constructor
  · intro h
    cases h with
    | ended follows _ ends =>
      obtain ⟨rfl, rfl, rfl, rfl⟩ := follows.of_terminal hterminal
      exact ⟨rfl, by rw [(ends_iff.1 ends).2], rfl⟩
    | failed follows _ running =>
      obtain ⟨rfl, rfl, rfl, rfl⟩ := follows.of_terminal hterminal
      simp [hterminal] at running
    | impatient follows _ running =>
      obtain ⟨rfl, rfl, rfl, rfl⟩ := follows.of_terminal hterminal
      simp [hterminal] at running
  · rintro ⟨rfl, rfl, rfl⟩
    exact .ended .here (Nat.zero_le _) (ends_iff.2 ⟨hterminal, rfl⟩)

theorem waits_zero {r : Result (Option Task)} (hrunning : t.status.isTerminal = false) :
    Waits s 0 t st history r st' ↔ history = [] ∧ r = .ok none ∧ st' = st := by
  constructor
  · intro h
    cases h with
    | ended follows patient ends =>
      cases follows with
      | here => simp [ends_iff, hrunning] at ends
      | on => cases patient
    | failed _ patient => cases patient
    | impatient follows all =>
      cases follows with
      | here => exact ⟨rfl, rfl, rfl⟩
      | on => cases all
  · rintro ⟨rfl, rfl, rfl⟩
    exact .impatient .here rfl hrunning

/-- A wait for a task that goes on is one fetch, and from its snapshot on a wait with less
patience. -/
theorem waits_succ {r : Result (Option Task)} (hrunning : t.status.isTerminal = false) :
    Waits s (patience + 1) t st history r st' ↔
      (∃ e, Fetched s t.href st history (.error e) st' ∧ r = .error e) ∨
        ∃ before next u after, Fetched s t.href st before (.ok next) u ∧
          Waits s patience next u after r st' ∧ history = before ++ after := by
  constructor
  · intro h
    cases h with
    | ended follows patient ends =>
      cases follows with
      | here => simp [ends_iff, hrunning] at ends
      | on _ fetch more =>
        exact .inr ⟨_, _, _, _, fetch, .ended more (Nat.le_of_succ_le_succ patient) ends, rfl⟩
    | failed follows patient running failure =>
      cases follows with
      | here => exact .inl ⟨_, failure, rfl⟩
      | on _ fetch more =>
        exact .inr ⟨_, _, _, _, fetch,
          .failed more (Nat.lt_of_succ_lt_succ patient) running failure, List.append_assoc _ _ _⟩
    | impatient follows all running =>
      cases follows with
      | here => cases all
      | on _ fetch more =>
        exact .inr ⟨_, _, _, _, fetch, .impatient more (Nat.succ.inj all) running, rfl⟩
  · rintro (⟨e, failure, rfl⟩ | ⟨before, next, u, after, fetch, h, rfl⟩)
    · exact .failed .here (Nat.succ_pos _) hrunning failure
    · cases h with
      | ended follows patient ends =>
        exact .ended (.on hrunning fetch follows) (Nat.succ_le_succ patient) ends
      | failed follows patient running failure =>
        rw [← List.append_assoc]
        exact .failed (.on hrunning fetch follows) (Nat.succ_lt_succ patient) running failure
      | impatient follows all running =>
        exact .impatient (.on hrunning fetch follows) (congrArg Nat.succ all) running

theorem runs_waitFor {r : Result (Option Task)} :
    (waitFor s patience t).Runs st history r st' ↔ Waits s patience t st history r st' := by
  induction patience generalizing t st history with
  | zero =>
    unfold waitFor
    cases hstatus : t.status.isTerminal with
    | true => simp only [if_true, Action.runs_result, waits_of_terminal hstatus]
    | false => simp only [Bool.false_eq_true, if_false, Action.runs_pure, waits_zero hstatus]
  | succ patience ih =>
    unfold waitFor
    cases hstatus : t.status.isTerminal with
    | true => simp only [if_true, Action.runs_result, waits_of_terminal hstatus]
    | false =>
      simp only [Bool.false_eq_true, if_false, Action.runs_wait_bind, waits_succ hstatus]
      rw [Action.runs_bind]
      simp only [runs_fetchTask, ih]

theorem runs_waitForHref {href : String} {r : Result (Option Task)} :
    (waitForHref s patience href).Runs st history r st' ↔
      (∃ e, Fetched s href st history (.error e) st' ∧ r = .error e) ∨
        ∃ before t u after, Fetched s href st before (.ok t) u ∧
          (waitFor s patience t).Runs u after r st' ∧ history = before ++ after := by
  unfold waitForHref
  rw [Action.runs_bind]
  simp only [runs_fetchTask]

/-- A result that a wait has come to does not depend on the patience that was left. -/
theorem Waits.of_le {more : Nat} {r : Result (Option Task)} (hmore : patience ≤ more)
    (hr : r ≠ .ok none) (h : Waits s patience t st history r st') :
    Waits s more t st history r st' := by
  cases h with
  | ended follows patient ends => exact .ended follows (Nat.le_trans patient hmore) ends
  | failed follows patient running fetch =>
    exact .failed follows (Nat.lt_of_lt_of_le patient hmore) running fetch
  | impatient => exact absurd rfl hr

/-- Whatever a server replies, waiting for a task asks for one snapshot after the other and for
none once the task has ended; the last snapshot, or the fetch that failed, decides the result.
Waiting at an address begins with a fetch there. -/
theorem waitFor_waits (s : Settings) (st : AuthState) :
    (∀ patience t server, ∃ history r st', (waitFor s patience t).Runs st history r st' ∧
      AnsweredBy server history) ∧
    (∀ patience t history r st', (waitFor s patience t).Runs st history r st' ↔
      Waits s patience t st history r st') ∧
    (∀ patience t history r st', t.status.isTerminal = true →
      (waitFor s patience t).Runs st history r st' →
      history = [] ∧ st' = st ∧ ∃ x, t.Ends x ∧ r = x.map some) ∧
    (∀ patience more t history r st', patience ≤ more → r ≠ .ok none →
      (waitFor s patience t).Runs st history r st' → (waitFor s more t).Runs st history r st') ∧
    ∀ patience href history r st', (waitForHref s patience href).Runs st history r st' ↔
      (∃ e, Fetched s href st history (.error e) st' ∧ r = .error e) ∨
        ∃ before t u after, Fetched s href st before (.ok t) u ∧
          (waitFor s patience t).Runs u after r st' ∧ history = before ++ after := by
  refine ⟨fun _ _ => Action.exists_runs _ st, fun _ _ _ _ _ => runs_waitFor, ?_, ?_,
    fun _ _ _ _ _ => runs_waitForHref⟩
  · intro patience t history r st' hterminal h
    obtain ⟨rfl, rfl, rfl⟩ := (waits_of_terminal hterminal).1 (runs_waitFor.1 h)
    exact ⟨rfl, rfl, _, ends_iff.2 ⟨hterminal, rfl⟩, rfl⟩
  · intro patience more t history r st' hmore hr h
    exact runs_waitFor.2 ((runs_waitFor.1 h).of_le hmore hr)

/-- A task that moves while it runs is followed to its new address. -/
example :
    let site (path : List String) : Url :=
      ⟨"http".toList, some ⟨[], none, "vcd".toList, none⟩, .segments (path.map String.toList), none,
        none⟩
    let s : Settings := { Settings.ofEndpoint (site ["api", ""]) with requestIds := .off }
    let snapshot (href : String) (status : TaskStatus) : Task :=
      { (default : Task) with href, status }
    let moved := snapshot "http://vcd/api/task/2"
    let w : World := ⟨.empty, none, fun _ => 0, 0, default, .scripted
      [.reply ⟨.ok, .empty, (moved .running).toJson.text⟩,
        .reply ⟨.ok, .empty, (moved .success).toJson.text⟩]⟩
    let a := waitFor s 2 (snapshot "http://vcd/api/task/1" .pending)
    (a.runIn w).1 = .ok (some (moved .success)) ∧
      (Program.exchanges a.run w).map (·.request.url) =
        [site ["api", "task", "1"], site ["api", "task", "2"]] := by decide +kernel

end CloudDirector.Task
