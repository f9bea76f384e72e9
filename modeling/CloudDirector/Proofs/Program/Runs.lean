import CloudDirector.Program

/-!
# Runs of programs

A program that runs alone on a security context leaves a history: what it exchanges, in order,
with the outcomes that it gets. Outcomes, the time, the numbers of requests and the query list are
whatever they may be, so what holds of all runs holds against every server. Running a program in a
world is one of its runs, and there is a run against every server.
-/
namespace CloudDirector
open Http Time

/-- A request that was sent, with its outcome. -/
structure Exchange where
  request : Request
  outcome : Outcome

/-- Every outcome is that of a server which knows all earlier exchanges. -/
def AnsweredBy (server : List Exchange → Request → Outcome) (history : List Exchange) : Prop :=
  ∀ i e, history[i]? = some e → e.outcome = server (history.take i) e.request

/-- The texts that may number a request. -/
def RequestIds.Gives : RequestIds → String → Prop
  | .off, id => id = ""
  | .random, id => ∃ n, id = (Uuid.ofNumber n).text
  | .fixed text, id => id = text
  | .counted start _, id => ∃ n : Nat, id = start ++ toString n

theorem RequestIds.exists_gives (ids : RequestIds) : ∃ id, ids.Gives id := by
  cases ids with
  | off => exact ⟨_, rfl⟩
  | random => exact ⟨_, 0, rfl⟩
  | fixed text => exact ⟨_, rfl⟩
  | counted start c => exact ⟨_, 0, rfl⟩

namespace Program

variable {α β : Type}

/-- `p.Runs s history a s'`: alone on a context in the state `s`, the program may exchange
`history`, end with the result `a` and leave the state `s'`. -/
def Runs : Program α → AuthState → List Exchange → α → AuthState → Prop
  | .done b, s, history, a, s' => history = [] ∧ a = b ∧ s' = s
  | .snapshot k, s, history, a, s' => (k s).Runs s history a s'
  | .update f p, s, history, a, s' => p.Runs (f s) history a s'
  | .exchange _ r k, s, history, a, s' =>
    ∃ o rest, history = ⟨r, o⟩ :: rest ∧ (k o).Runs s rest a s'
  | .drawId ids k, s, history, a, s' => ∃ id, ids.Gives id ∧ (k id).Runs s history a s'
  | .clock k, s, history, a, s' => ∃ now, (k now).Runs s history a s'
  | .sleep _ p, s, history, a, s' => p.Runs s history a s'
  | .recall k, s, history, a, s' => ∃ q, (k q).Runs s history a s'
  | .remember _ p, s, history, a, s' => p.Runs s history a s'

variable {s s' : AuthState} {history : List Exchange}

@[simp] theorem runs_done {a b : α} :
    (Program.done b).Runs s history a s' ↔ history = [] ∧ a = b ∧ s' = s := Iff.rfl

@[simp] theorem runs_getState {a : AuthState} :
    getState.Runs s history a s' ↔ history = [] ∧ a = s ∧ s' = s := Iff.rfl

@[simp] theorem runs_modify {f : AuthState → AuthState} {a : Unit} :
    (modify f).Runs s history a s' ↔ history = [] ∧ a = () ∧ s' = f s := Iff.rfl

@[simp] theorem runs_install {t : AuthState} {a : Unit} :
    (install t).Runs s history a s' ↔ history = [] ∧ a = () ∧ s' = t := Iff.rfl

@[simp] theorem runs_exchangeOnce {agent : String} {r : Request} {o : Outcome} :
    (exchangeOnce agent r).Runs s history o s' ↔ history = [⟨r, o⟩] ∧ s' = s := by
  constructor
  · rintro ⟨_, _, rfl, rfl, rfl, rfl⟩
    exact ⟨rfl, rfl⟩
  · rintro ⟨rfl, rfl⟩
    exact ⟨o, [], rfl, rfl, rfl, rfl⟩

@[simp] theorem runs_draw {ids : RequestIds} {id : String} :
    (draw ids).Runs s history id s' ↔ history = [] ∧ ids.Gives id ∧ s' = s := by
  constructor
  · rintro ⟨_, hid, rfl, rfl, rfl⟩
    exact ⟨rfl, hid, rfl⟩
  · rintro ⟨rfl, hid, rfl⟩
    exact ⟨id, hid, rfl, rfl, rfl⟩

@[simp] theorem runs_now {t : Instant} : now.Runs s history t s' ↔ history = [] ∧ s' = s := by
  constructor
  · rintro ⟨_, rfl, rfl, rfl⟩
    exact ⟨rfl, rfl⟩
  · rintro ⟨rfl, rfl⟩
    exact ⟨t, rfl, rfl, rfl⟩

@[simp] theorem runs_wait {d : Span} {a : Unit} :
    (wait d).Runs s history a s' ↔ history = [] ∧ a = () ∧ s' = s := Iff.rfl

/-- The history of one program after the other is cut where the second begins. -/
theorem runs_bind {p : Program α} {f : α → Program β} {b : β} :
    (p >>= f).Runs s history b s' ↔ ∃ before a t after,
      p.Runs s before a t ∧ (f a).Runs t after b s' ∧ history = before ++ after := by
  change (p.bind f).Runs s history b s' ↔ _
  induction p generalizing s history with
  | done a =>
    constructor
    · intro h
      exact ⟨[], a, s, history, ⟨rfl, rfl, rfl⟩, h, rfl⟩
    · rintro ⟨_, _, _, _, ⟨rfl, rfl, rfl⟩, h, rfl⟩
      exact h
  | snapshot k ih => exact ih s
  | update g p ih => exact ih
  | exchange agent r k ih =>
    constructor
    · rintro ⟨o, rest, rfl, h⟩
      obtain ⟨before, a, t, after, hp, hf, rfl⟩ := (ih o).1 h
      exact ⟨⟨r, o⟩ :: before, a, t, after, ⟨o, before, rfl, hp⟩, hf, rfl⟩
    · rintro ⟨_, a, t, after, ⟨o, before, rfl, hp⟩, hf, rfl⟩
      exact ⟨o, before ++ after, rfl, (ih o).2 ⟨before, a, t, after, hp, hf, rfl⟩⟩
  | drawId ids k ih =>
    constructor
    · rintro ⟨id, hid, h⟩
      obtain ⟨before, a, t, after, hp, hf, rfl⟩ := (ih id).1 h
      exact ⟨before, a, t, after, ⟨id, hid, hp⟩, hf, rfl⟩
    · rintro ⟨before, a, t, after, ⟨id, hid, hp⟩, hf, rfl⟩
      exact ⟨id, hid, (ih id).2 ⟨before, a, t, after, hp, hf, rfl⟩⟩
  | clock k ih =>
    constructor
    · rintro ⟨now, h⟩
      obtain ⟨before, a, t, after, hp, hf, rfl⟩ := (ih now).1 h
      exact ⟨before, a, t, after, ⟨now, hp⟩, hf, rfl⟩
    · rintro ⟨before, a, t, after, ⟨now, hp⟩, hf, rfl⟩
      exact ⟨now, (ih now).2 ⟨before, a, t, after, hp, hf, rfl⟩⟩
  | sleep d p ih => exact ih
  | «recall» k ih =>
    constructor
    · rintro ⟨q, h⟩
      obtain ⟨before, a, t, after, hp, hf, rfl⟩ := (ih q).1 h
      exact ⟨before, a, t, after, ⟨q, hp⟩, hf, rfl⟩
    · rintro ⟨before, a, t, after, ⟨q, hp⟩, hf, rfl⟩
      exact ⟨q, (ih q).2 ⟨before, a, t, after, hp, hf, rfl⟩⟩
  | remember q p ih => exact ih

/-- A program on a context of its own leaves the other context alone. -/
theorem runs_isolate {p : Program α} {t : AuthState} {q : Option QueryList} {x : α × AuthState}
    (h : (p.isolate t q).Runs s history x s') : p.Runs t history x.1 x.2 ∧ s' = s := by
  induction p generalizing t q history with
  | done a =>
    obtain ⟨rfl, rfl, rfl⟩ := h
    exact ⟨⟨rfl, rfl, rfl⟩, rfl⟩
  | snapshot k ih => exact ih t h
  | update f p ih => exact ih h
  | exchange agent r k ih =>
    obtain ⟨o, rest, rfl, h⟩ := h
    obtain ⟨hruns, hsame⟩ := ih o h
    exact ⟨⟨o, rest, rfl, hruns⟩, hsame⟩
  | drawId ids k ih =>
    obtain ⟨id, hid, h⟩ := h
    obtain ⟨hruns, hsame⟩ := ih id h
    exact ⟨⟨id, hid, hruns⟩, hsame⟩
  | clock k ih =>
    obtain ⟨now, h⟩ := h
    obtain ⟨hruns, hsame⟩ := ih now h
    exact ⟨⟨now, hruns⟩, hsame⟩
  | sleep d p ih => exact ih h
  | «recall» k ih =>
    obtain ⟨hruns, hsame⟩ := ih q h
    exact ⟨⟨q, hruns⟩, hsame⟩
  | remember q p ih => exact ih h

/-- On a context of its own a program goes on where the one before it has left that context. -/
theorem runs_isolate_bind {p : Program α} {f : α → Program β} {t : AuthState}
    {q : Option QueryList} {x : β × AuthState}
    (h : ((p >>= f).isolate t q).Runs s history x s') : ∃ before a u after,
      (p.isolate t q).Runs s before (a, u) s ∧ (f a).Runs u after x.1 x.2 ∧
        history = before ++ after := by
  change ((p.bind f).isolate t q).Runs s history x s' at h
  induction p generalizing t q history with
  | done a => exact ⟨[], a, t, history, ⟨rfl, rfl, rfl⟩, (runs_isolate h).1, rfl⟩
  | snapshot k ih => exact ih t h
  | update g p ih => exact ih h
  | exchange agent r k ih =>
    obtain ⟨o, rest, rfl, h⟩ := h
    obtain ⟨before, a, u, after, hp, hf, rfl⟩ := ih o h
    exact ⟨⟨r, o⟩ :: before, a, u, after, ⟨o, before, rfl, hp⟩, hf, rfl⟩
  | drawId ids k ih =>
    obtain ⟨id, hid, h⟩ := h
    obtain ⟨before, a, u, after, hp, hf, rfl⟩ := ih id h
    exact ⟨before, a, u, after, ⟨id, hid, hp⟩, hf, rfl⟩
  | clock k ih =>
    obtain ⟨now, h⟩ := h
    obtain ⟨before, a, u, after, hp, hf, rfl⟩ := ih now h
    exact ⟨before, a, u, after, ⟨now, hp⟩, hf, rfl⟩
  | sleep d p ih => exact ih h
  | «recall» k ih => exact ih q h
  | remember q p ih => exact ih h

/-- What a program exchanges when it runs alone in a world. -/
def exchanges : Program α → World → List Exchange
  | .done _, _ => []
  | .snapshot k, w => (k w.auth).exchanges w
  | .update f p, w => p.exchanges { w with auth := f w.auth }
  | .exchange agent r k, w =>
    ⟨r, (w.ask agent r).1⟩ :: (k (w.ask agent r).1).exchanges (w.ask agent r).2
  | .drawId ids k, w => (k (w.nextId ids).1).exchanges (w.nextId ids).2
  | .clock k, w => (k w.now).exchanges w
  | .sleep _ p, w => p.exchanges w
  | .recall k, w => (k w.queries).exchanges w
  | .remember q p, w => p.exchanges { w with queries := some q }

/-- A program that runs alone in a world makes a run on the context and the query list there. -/
theorem runs_isolate_exchanges (p : Program α) (w : World) :
    (p.isolate w.auth w.queries).Runs s (p.exchanges w) ((p.run w).1, (p.run w).2.auth) s := by
  induction p generalizing w with
  | done a => exact ⟨rfl, rfl, rfl⟩
  | snapshot k ih => exact ih w.auth w
  | update f p ih => exact ih { w with auth := f w.auth }
  | exchange agent r k ih =>
    have h := ih (w.ask agent r).1 (w.ask agent r).2
    have hsame : (w.ask agent r).2.auth = w.auth ∧ (w.ask agent r).2.queries = w.queries := by
      unfold World.ask
      split <;> exact ⟨rfl, rfl⟩
    rw [hsame.1, hsame.2] at h
    exact ⟨_, _, rfl, h⟩
  | drawId ids k ih =>
    have h := ih (w.nextId ids).1 (w.nextId ids).2
    have hsame : (w.nextId ids).2.auth = w.auth ∧ (w.nextId ids).2.queries = w.queries := by
      cases ids <;> exact ⟨rfl, rfl⟩
    have hid : ids.Gives (w.nextId ids).1 := by
      cases ids with
      | off => rfl
      | random => exact ⟨_, rfl⟩
      | fixed text => rfl
      | counted start c => exact ⟨_, rfl⟩
    rw [hsame.1, hsame.2] at h
    exact ⟨_, hid, h⟩
  | clock k ih => exact ⟨w.now, ih w.now w⟩
  | sleep d p ih => exact ih w
  | «recall» k ih => exact ih w.queries w
  | remember q p ih => exact ih { w with queries := some q }

/-- A program that runs in a world makes one of its runs. -/
theorem runs_exchanges (p : Program α) (w : World) :
    p.Runs w.auth (p.exchanges w) (p.run w).1 (p.run w).2.auth :=
  (runs_isolate (p.runs_isolate_exchanges (s := w.auth) w)).1

theorem runs_run (p : Program α) (w : World) :
    ∃ history, p.Runs w.auth history (p.run w).1 (p.run w).2.auth :=
  ⟨_, p.runs_exchanges w⟩

/-- Whatever a server makes of requests, the program ends. -/
theorem exists_runs (p : Program α) (s : AuthState)
    (server : List Exchange → Request → Outcome) :
    ∃ history a s', p.Runs s history a s' ∧ AnsweredBy server history := by
  induction p generalizing s server with
  | done a => exact ⟨[], a, s, ⟨rfl, rfl, rfl⟩, by simp [AnsweredBy]⟩
  | snapshot k ih => exact ih s s server
  | update f p ih => exact ih (f s) server
  | exchange agent r k ih =>
    let first : Exchange := ⟨r, server [] r⟩
    obtain ⟨history, a, s', h, hserver⟩ := ih first.outcome s fun past => server (first :: past)
    refine ⟨first :: history, a, s', ⟨_, history, rfl, h⟩, ?_⟩
    intro i e he
    cases i with
    | zero =>
      cases he
      rfl
    | succ i => exact hserver i e he
  | drawId ids k ih =>
    obtain ⟨id, hid⟩ := ids.exists_gives
    obtain ⟨history, a, s', h, hserver⟩ := ih id s server
    exact ⟨history, a, s', ⟨id, hid, h⟩, hserver⟩
  | clock k ih =>
    obtain ⟨history, a, s', h, hserver⟩ := ih default s server
    exact ⟨history, a, s', ⟨_, h⟩, hserver⟩
  | sleep d p ih => exact ih s server
  | «recall» k ih =>
    obtain ⟨history, a, s', h, hserver⟩ := ih none s server
    exact ⟨history, a, s', ⟨_, h⟩, hserver⟩
  | remember q p ih => exact ih s server

end Program

namespace Action

variable {α β : Type} {s s' : AuthState} {history : List Exchange}

/-- The runs of an action, with results that may be errors. -/
def Runs (a : Action α) (s : AuthState) (history : List Exchange) (r : Result α) (s' : AuthState) :
    Prop :=
  Program.Runs a.run s history r s'

@[simp] theorem runs_pure {a : α} {r : Result α} :
    Runs (pure a) s history r s' ↔ history = [] ∧ r = .ok a ∧ s' = s := Iff.rfl

@[simp] theorem runs_throw {e : Error} {r : Result α} :
    Runs (throw e) s history r s' ↔ history = [] ∧ r = .error e ∧ s' = s := Iff.rfl

@[simp] theorem runs_result {x r : Result α} :
    Runs (liftM x) s history r s' ↔ history = [] ∧ r = x ∧ s' = s := Iff.rfl

@[simp] theorem runs_program {p : Program α} {r : Result α} :
    Runs (liftM p) s history r s' ↔ ∃ a, r = .ok a ∧ p.Runs s history a s' := by
  change Program.Runs (p >>= fun a => .done (.ok a)) s history r s' ↔ _
  rw [Program.runs_bind]
  constructor
  · rintro ⟨before, a, t, after, hp, ⟨rfl, rfl, rfl⟩, rfl⟩
    exact ⟨a, rfl, by simpa using hp⟩
  · rintro ⟨a, rfl, hp⟩
    exact ⟨history, a, s', [], hp, ⟨rfl, rfl, rfl⟩, by simp⟩

@[simp] theorem runs_modify {f : AuthState → AuthState} {r : Result Unit} :
    Runs (liftM (Program.modify f)) s history r s' ↔ history = [] ∧ r = .ok () ∧ s' = f s := by
  rw [runs_program]
  constructor
  · rintro ⟨_, rfl, rfl, -, rfl⟩
    exact ⟨rfl, rfl, rfl⟩
  · rintro ⟨rfl, rfl, rfl⟩
    exact ⟨(), rfl, rfl, rfl, rfl⟩

/-- An action goes on after a result and ends with the first error. -/
theorem runs_bind {a : Action α} {f : α → Action β} {r : Result β} :
    Runs (a >>= f) s history r s' ↔
      (∃ e, Runs a s history (.error e) s' ∧ r = .error e) ∨
      ∃ before x t after, Runs a s before (.ok x) t ∧ Runs (f x) t after r s' ∧
        history = before ++ after := by
  rw [Runs, ExceptT.run_bind, Program.runs_bind]
  constructor
  · rintro ⟨before, x, t, after, ha, hf, rfl⟩
    cases x with
    | error e =>
      obtain ⟨rfl, rfl, rfl⟩ := hf
      rw [List.append_nil]
      exact .inl ⟨e, ha, rfl⟩
    | ok x => exact .inr ⟨before, x, t, after, ha, hf, rfl⟩
  · rintro (⟨e, ha, rfl⟩ | ⟨before, x, t, after, ha, hf, rfl⟩)
    · exact ⟨history, .error e, s', [], ha, ⟨rfl, rfl, rfl⟩, by simp⟩
    · exact ⟨before, .ok x, t, after, ha, hf, rfl⟩

@[simp] theorem runs_attempt {a : Action α} {r : Result (Result α)} :
    Runs (attempt a) s history r s' ↔ ∃ x, r = .ok x ∧ Runs a s history x s' := by
  change Program.Runs (a.run >>= fun x => .done (.ok x)) s history r s' ↔ _
  rw [Program.runs_bind]
  constructor
  · rintro ⟨before, x, t, after, ha, ⟨rfl, rfl, rfl⟩, rfl⟩
    rw [List.append_nil]
    exact ⟨x, rfl, ha⟩
  · rintro ⟨x, rfl, ha⟩
    exact ⟨history, x, s', [], ha, ⟨rfl, rfl, rfl⟩, by simp⟩

/-- An attempt goes on with its result, whether or not it is an error. -/
theorem runs_attempt_bind {a : Action α} {f : Result α → Action β} {r : Result β} :
    Runs (attempt a >>= f) s history r s' ↔ ∃ before x t after,
      Runs a s before x t ∧ Runs (f x) t after r s' ∧ history = before ++ after := by
  rw [runs_bind]
  simp [runs_attempt]

@[simp] theorem runs_ok_bind {a : α} {f : α → Action β} {r : Result β} :
    Runs (liftM (.ok a : Result α) >>= f) s history r s' ↔ Runs (f a) s history r s' := Iff.rfl

@[simp] theorem runs_error_bind {e : Error} {f : α → Action β} {r : Result β} :
    Runs (liftM (.error e : Result α) >>= f) s history r s' ↔
      history = [] ∧ r = .error e ∧ s' = s := Iff.rfl

@[simp] theorem runs_result_bind {x : Result α} {f : α → Action β} {r : Result β} :
    Runs (liftM x >>= f) s history r s' ↔
      match x with
      | .ok a => Runs (f a) s history r s'
      | .error e => history = [] ∧ r = .error e ∧ s' = s := by
  cases x <;> rfl

theorem runs_attempt_bind_result {a : Action α} {f : Result α → Result β} {r : Result β} :
    Runs (attempt a >>= fun x => liftM (f x)) s history r s' ↔
      ∃ x, Runs a s history x s' ∧ r = f x := by
  rw [runs_attempt_bind]
  constructor
  · rintro ⟨before, x, t, after, ha, ⟨rfl, rfl, rfl⟩, rfl⟩
    rw [List.append_nil]
    exact ⟨x, ha, rfl⟩
  · rintro ⟨x, ha, rfl⟩
    exact ⟨history, x, s', [], ha, ⟨rfl, rfl, rfl⟩, (List.append_nil history).symm⟩

theorem runs_bind_result {a : Action α} {f : α → Result β} {r : Result β} :
    Runs (a >>= fun x => liftM (f x)) s history r s' ↔
      ∃ x, Runs a s history x s' ∧ r = x >>= f := by
  rw [runs_bind]
  constructor
  · rintro (⟨e, ha, rfl⟩ | ⟨before, x, t, after, ha, hf, rfl⟩)
    · exact ⟨.error e, ha, rfl⟩
    · obtain ⟨rfl, rfl, rfl⟩ := runs_result.1 hf
      rw [List.append_nil]
      exact ⟨.ok x, ha, rfl⟩
  · rintro ⟨x, ha, rfl⟩
    cases x with
    | error e => exact .inl ⟨e, ha, rfl⟩
    | ok x =>
      exact .inr ⟨history, x, s', [], ha, runs_result.2 ⟨rfl, rfl, rfl⟩,
        (List.append_nil history).symm⟩

theorem runs_bind_pure {a : Action α} {f : α → β} {r : Result β} :
    Runs (a >>= fun x => pure (f x)) s history r s' ↔ ∃ x, Runs a s history x s' ∧ r = x.map f := by
  have heq (x : Result α) : (x >>= fun a => .ok (f a)) = x.map f := by cases x <;> rfl
  simp only [← heq]
  exact runs_bind_result

/-- Two results in turn are one, which is the first error or the last result. -/
theorem runs_result_bind_bind {x : Result α} {f : α → Result β} {γ : Type} {g : β → Action γ}
    {r : Result γ} : Runs (liftM x >>= fun a => liftM (f a) >>= g) s history r s' ↔
      Runs (liftM (x >>= f) >>= g) s history r s' := by
  cases x <;> rfl

theorem runs_program_bind {p : Program α} {f : α → Action β} {r : Result β} :
    Runs (liftM p >>= f) s history r s' ↔ ∃ before a t after,
      p.Runs s before a t ∧ Runs (f a) t after r s' ∧ history = before ++ after := by
  rw [runs_bind]
  simp [runs_program]

@[simp] theorem runs_getState_bind {f : AuthState → Action β} {r : Result β} :
    Runs (liftM Program.getState >>= f) s history r s' ↔ Runs (f s) s history r s' := Iff.rfl

@[simp] theorem runs_draw_bind {ids : RequestIds} {f : String → Action β} {r : Result β} :
    Runs (liftM (Program.draw ids) >>= f) s history r s' ↔
      ∃ id, ids.Gives id ∧ Runs (f id) s history r s' := Iff.rfl

@[simp] theorem runs_wait_bind {d : Span} {f : Unit → Action β} {r : Result β} :
    Runs (liftM (Program.wait d) >>= f) s history r s' ↔ Runs (f ()) s history r s' := Iff.rfl

@[simp] theorem runs_now_bind {f : Instant → Action β} {r : Result β} :
    Runs (liftM Program.now >>= f) s history r s' ↔ ∃ now, Runs (f now) s history r s' := Iff.rfl

/-- A program that goes on with the result of an action, whether or not it is an error. -/
theorem runs_run_bind {a : Action α} {f : Result α → Program β} {b : β} :
    (a.run >>= f).Runs s history b s' ↔ ∃ before r t after,
      Runs a s before r t ∧ (f r).Runs t after b s' ∧ history = before ++ after :=
  Program.runs_bind

theorem runs_exchanges (a : Action α) (w : World) :
    a.Runs w.auth (Program.exchanges a.run w) (a.runIn w).1 (a.runIn w).2.auth :=
  Program.runs_exchanges a.run w

/-- The runs of an action of a client that keeps `kept` for a query list at the start. -/
def RunsKeeping (kept : Option QueryList) (a : Action α) (s : AuthState)
    (history : List Exchange) (r : Result α) (s' : AuthState) : Prop :=
  ∃ x y, (Program.isolate s kept a.run).Runs x history (r, s') y

variable {kept : Option QueryList}

theorem RunsKeeping.runs {a : Action α} {r : Result α} (h : a.RunsKeeping kept s history r s') :
    a.Runs s history r s' := by
  obtain ⟨x, y, h⟩ := h
  unfold Runs
  exact (Program.runs_isolate h).1

/-- An action that goes on with the result of another one, which finds the query list that is
kept. -/
theorem RunsKeeping.of_run_bind {a : Action α} {b : Action β} {f : Result α → Program (Result β)}
    {r : Result β} (hrun : b.run = a.run >>= f) (h : b.RunsKeeping kept s history r s') :
    ∃ before x t after, a.RunsKeeping kept s before x t ∧ (f x).Runs t after r s' ∧
      history = before ++ after := by
  obtain ⟨y, z, h⟩ := h
  rw [hrun] at h
  obtain ⟨before, x, t, after, ha, hf, rfl⟩ := Program.runs_isolate_bind h
  exact ⟨before, x, t, after, ⟨y, y, ha⟩, hf, rfl⟩

theorem RunsKeeping.of_bind {a : Action α} {f : α → Action β} {r : Result β}
    (h : (a >>= f).RunsKeeping kept s history r s') :
    (∃ e, a.RunsKeeping kept s history (.error e) s' ∧ r = .error e) ∨
      ∃ before x t after, a.RunsKeeping kept s before (.ok x) t ∧ Runs (f x) t after r s' ∧
        history = before ++ after := by
  obtain ⟨before, x, t, after, ha, hf, rfl⟩ := h.of_run_bind (ExceptT.run_bind _ _)
  cases x with
  | error e =>
    obtain ⟨rfl, rfl, rfl⟩ := hf
    rw [List.append_nil]
    exact .inl ⟨e, ha, rfl⟩
  | ok x =>
    unfold Runs
    exact .inr ⟨before, x, t, after, ha, hf, rfl⟩

theorem runsKeeping_exchanges (a : Action α) (w : World) :
    a.RunsKeeping w.queries w.auth (Program.exchanges a.run w) (a.runIn w).1
      (a.runIn w).2.auth :=
  ⟨w.auth, w.auth, Program.runs_isolate_exchanges a.run w⟩

/-- Whoever looks for a query list first sees the one that is kept. -/
theorem runsKeeping_queries_bind {f : Option QueryList → Action α} {r : Result α} :
    RunsKeeping kept (liftM Program.queries? >>= f) s history r s' ↔
      RunsKeeping kept (f kept) s history r s' := Iff.rfl

/-- Whatever a server makes of requests, the action ends. -/
theorem exists_runs (a : Action α) (s : AuthState) (server : List Exchange → Request → Outcome) :
    ∃ history r s', Runs a s history r s' ∧ AnsweredBy server history :=
  Program.exists_runs a.run s server

/-- Against every server the action ends, and each of its runs is as `Q` says. -/
def Ensures (a : Action α) (s : AuthState) (Q : List Exchange → Result α → AuthState → Prop) :
    Prop :=
  (∀ server, ∃ history r s', Runs a s history r s' ∧ AnsweredBy server history) ∧
    ∀ history r s', Runs a s history r s' → Q history r s'

theorem ensures_iff {a : Action α} {Q : List Exchange → Result α → AuthState → Prop} :
    a.Ensures s Q ↔ ∀ history r s', Runs a s history r s' → Q history r s' :=
  ⟨And.right, fun h => ⟨exists_runs a s, h⟩⟩

-- Runs of a whole operation are opened by the lemmas above, never by evaluating the operation.
attribute [irreducible] Runs

end Action

end CloudDirector
