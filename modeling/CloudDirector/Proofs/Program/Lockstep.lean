import CloudDirector.Proofs.Program.Runs

/-!
# Programs in lockstep

Two programs go in lockstep if they make the same requests under the same numbers as long as they
are told the same, though the states at which they look may differ. Run in worlds that differ only
in the context they exchange the same, up to the first outcome after which they may part.
-/
namespace CloudDirector
open Http Time

/-- The world with another context. -/
def World.withAuth (w : World) (x : AuthState) : World := { w with auth := x }

theorem World.ask_withAuth (w : World) (x : AuthState) (agent : String) (r : Request) :
    (w.withAuth x).ask agent r = ((w.ask agent r).1, (w.ask agent r).2.withAuth x) := by
  unfold ask
  cases r.onWire? agent <;> rfl

theorem World.nextId_withAuth (w : World) (x : AuthState) (ids : RequestIds) :
    (w.withAuth x).nextId ids = ((w.nextId ids).1, (w.nextId ids).2.withAuth x) := by
  cases ids <;> rfl

namespace Program

variable {α β : Type} {related : AuthState → AuthState → Prop} {stops : Outcome → Prop}

/-- Two programs look at related states and do the same while they are told the same, unless an
outcome `stops` them from going together. -/
inductive Lockstep (related : AuthState → AuthState → Prop) (stops : Outcome → Prop) :
    Program α → Program α → Prop
  | done (a : α) : Lockstep related stops (.done a) (.done a)
  | snapshot {k l : AuthState → Program α}
    (next : ∀ x y, related x y → Lockstep related stops (k x) (l y)) :
    Lockstep related stops (.snapshot k) (.snapshot l)
  | update {f g : AuthState → AuthState} {p q : Program α}
    (change : ∀ x y, related x y → related (f x) (g y)) (next : Lockstep related stops p q) :
    Lockstep related stops (.update f p) (.update g q)
  | exchange {agent : String} {r : Request} {k l : Outcome → Program α}
    (next : ∀ o, ¬ stops o → Lockstep related stops (k o) (l o)) :
    Lockstep related stops (.exchange agent r k) (.exchange agent r l)
  | drawId {ids : RequestIds} {k l : String → Program α}
    (next : ∀ id, Lockstep related stops (k id) (l id)) :
    Lockstep related stops (.drawId ids k) (.drawId ids l)
  | clock {k l : Instant → Program α} (next : ∀ now, Lockstep related stops (k now) (l now)) :
    Lockstep related stops (.clock k) (.clock l)
  | sleep {d : Span} {p q : Program α} (next : Lockstep related stops p q) :
    Lockstep related stops (.sleep d p) (.sleep d q)
  | «recall» {k l : Option QueryList → Program α}
    (next : ∀ queries, Lockstep related stops (k queries) (l queries)) :
    Lockstep related stops (.recall k) (.recall l)
  | remember {queries : QueryList} {p q : Program α} (next : Lockstep related stops p q) :
    Lockstep related stops (.remember queries p) (.remember queries q)

namespace Lockstep

variable {p q : Program α}

theorem bind {f g : α → Program β} (h : p.Lockstep related stops q)
    (hf : ∀ a, (f a).Lockstep related stops (g a)) :
    (p >>= f).Lockstep related stops (q >>= g) := by
  induction h with
  | done a => exact hf a
  | snapshot next ih => exact .snapshot ih
  | update change next ih => exact .update change ih
  | exchange next ih => exact .exchange ih
  | drawId next ih => exact .drawId ih
  | clock next ih => exact .clock ih
  | sleep next ih => exact .sleep ih
  | «recall» next ih => exact .recall ih
  | remember next ih => exact .remember ih

/-- As long as none of the first `n` outcomes stops them, the first `n + 1` exchanges are the same. -/
theorem take_exchanges (h : p.Lockstep related stops q) {x y : AuthState} (hxy : related x y)
    (w : World) (n : Nat) (hn : ∀ e ∈ (p.exchanges (w.withAuth x)).take n, ¬ stops e.outcome) :
    (p.exchanges (w.withAuth x)).take (n + 1) = (q.exchanges (w.withAuth y)).take (n + 1) := by
  induction h generalizing x y w n with
  | done a => rfl
  | snapshot next ih => exact ih x y hxy hxy w n hn
  | update change next ih => exact ih (change x y hxy) w n hn
  | exchange next ih =>
    simp only [exchanges, World.ask_withAuth, List.take_succ_cons] at hn ⊢
    congr 1
    cases n with
    | zero => rfl
    | succ n =>
      rw [List.take_succ_cons, List.forall_mem_cons] at hn
      exact ih _ hn.1 hxy _ n hn.2
  | drawId next ih =>
    simp only [exchanges, World.nextId_withAuth] at hn ⊢
    exact ih _ hxy _ n hn
  | clock next ih => exact ih w.now hxy w n hn
  | sleep next ih => exact ih hxy w n hn
  | «recall» next ih => exact ih w.queries hxy w n hn
  | remember next ih => exact ih hxy { w with queries := some _ } n hn

/-- If no outcome stops them, the programs end alike, in worlds that differ only in the context. -/
theorem run (h : p.Lockstep related stops q) {x y : AuthState} (hxy : related x y) (w : World)
    (hgo : ∀ e ∈ p.exchanges (w.withAuth x), ¬ stops e.outcome) :
    p.exchanges (w.withAuth x) = q.exchanges (w.withAuth y) ∧
      ∃ a w' x' y', related x' y' ∧ p.run (w.withAuth x) = (a, World.withAuth w' x') ∧
        q.run (w.withAuth y) = (a, World.withAuth w' y') := by
  induction h generalizing x y w with
  | done a => exact ⟨rfl, a, w, x, y, hxy, rfl, rfl⟩
  | snapshot next ih => exact ih x y hxy hxy w hgo
  | update change next ih => exact ih (change x y hxy) w hgo
  | exchange next ih =>
    simp only [exchanges, Program.run, World.ask_withAuth, List.forall_mem_cons] at hgo ⊢
    obtain ⟨hsame, hrun⟩ := ih _ hgo.1 hxy _ hgo.2
    exact ⟨by rw [hsame], hrun⟩
  | drawId next ih =>
    simp only [exchanges, Program.run, World.nextId_withAuth] at hgo ⊢
    exact ih _ hxy _ hgo
  | clock next ih => exact ih w.now hxy w hgo
  | sleep next ih => exact ih hxy w hgo
  | «recall» next ih => exact ih w.queries hxy w hgo
  | remember next ih => exact ih hxy { w with queries := some _ } hgo

end Lockstep

end Program

namespace Action

variable {α β : Type} {related : AuthState → AuthState → Prop} {stops : Outcome → Prop}

/-- Two actions in lockstep end with the same result or the same error. -/
def Lockstep (related : AuthState → AuthState → Prop) (stops : Outcome → Prop) (a b : Action α) :
    Prop :=
  Program.Lockstep related stops a.run b.run

theorem lockstep_pure (v : α) : Lockstep related stops (pure v) (pure v) := .done _

theorem lockstep_throw (e : Error) : Lockstep related stops (throw e : Action α) (throw e) :=
  .done _

theorem lockstep_result (x : Result α) :
    Lockstep related stops (liftM x : Action α) (liftM x) := .done _

theorem Lockstep.bind {a b : Action α} {f g : α → Action β} (h : Lockstep related stops a b)
    (hf : ∀ v, Lockstep related stops (f v) (g v)) :
    Lockstep related stops (a >>= f) (b >>= g) := by
  unfold Lockstep
  rw [ExceptT.run_bind, ExceptT.run_bind]
  apply Program.Lockstep.bind h
  intro r
  cases r with
  | ok v => exact hf v
  | error e => exact .done _

theorem lockstep_program {p q : Program α} (h : p.Lockstep related stops q) :
    Lockstep related stops (liftM p) (liftM q) :=
  Program.Lockstep.bind h fun _ => .done _

theorem lockstep_getState_bind {f g : AuthState → Action β}
    (h : ∀ x y, related x y → Lockstep related stops (f x) (g y)) :
    Lockstep related stops (liftM Program.getState >>= f) (liftM Program.getState >>= g) :=
  .snapshot h

theorem lockstep_modify {f g : AuthState → AuthState}
    (h : ∀ x y, related x y → related (f x) (g y)) :
    Lockstep related stops (liftM (Program.modify f)) (liftM (Program.modify g)) :=
  lockstep_program (.update h (.done _))

end Action

end CloudDirector
