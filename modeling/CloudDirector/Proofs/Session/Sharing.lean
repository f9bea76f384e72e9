import CloudDirector.Proofs.Program.Runs
import CloudDirector.Proofs.Session.Changes
import Mathlib.Data.List.Induction

/-!
# Clients that share a context

Any number of clients make calls on one context. A schedule says in which order calls begin and
take their steps, what each step is told, and when a client limits the context to a tenant, which is
one step by itself. Every schedule is a run, so what holds of all schedules holds however the calls
take turns and whatever the server replies.
-/
namespace CloudDirector
open Http Time

/-- What a program is told when it asks for more than the context. -/
structure Answers where
  outcome : Outcome
  id : String
  now : Instant
  queries : Option QueryList
  deriving Inhabited

/-- A program on its way: the state at which it looked last, and what it has yet to do. -/
structure Ongoing (α : Type) where
  seen : AuthState
  rest : Program α

namespace Ongoing

variable {α : Type}

def step (o : Ongoing α) (x : Answers) (s : AuthState) : Ongoing α × AuthState :=
  match o.rest with
  | .done _ => (o, s)
  | .snapshot k => (⟨s, k s⟩, s)
  | .update f p => (⟨o.seen, p⟩, f s)
  | .exchange _ _ k => (⟨o.seen, k x.outcome⟩, s)
  | .drawId _ k => (⟨o.seen, k x.id⟩, s)
  | .clock k => (⟨o.seen, k x.now⟩, s)
  | .sleep _ p => (⟨o.seen, p⟩, s)
  | .recall k => (⟨o.seen, k x.queries⟩, s)
  | .remember _ p => (⟨o.seen, p⟩, s)

/-- A step keeps the guarantee of the program, and changes the context only as the rule allows. -/
theorem step_cases {rule : AuthState → (AuthState → AuthState) → Prop}
    {ends : AuthState → α → Prop} {o : Ongoing α} (h : o.rest.Guarantees rule ends o.seen)
    (x : Answers) (s : AuthState) :
    (o.step x s).1.rest.Guarantees rule ends (o.step x s).1.seen ∧
      (((∀ f p, o.rest ≠ .update f p) ∧ (o.step x s).2 = s) ∨
        ∃ f p, o.rest = .update f p ∧ rule o.seen f ∧ (o.step x s).2 = f s) := by
  obtain ⟨seen, rest⟩ := o
  cases rest with
  | done a => exact ⟨h, .inl ⟨nofun, rfl⟩⟩
  | snapshot k => exact ⟨h s, .inl ⟨nofun, rfl⟩⟩
  | update f p => exact ⟨h.2, .inr ⟨f, p, rfl, h.1, rfl⟩⟩
  | exchange agent r k => exact ⟨h x.outcome, .inl ⟨nofun, rfl⟩⟩
  | drawId ids k => exact ⟨h x.id, .inl ⟨nofun, rfl⟩⟩
  | clock k => exact ⟨h x.now, .inl ⟨nofun, rfl⟩⟩
  | sleep d p => exact ⟨h, .inl ⟨nofun, rfl⟩⟩
  | «recall» k => exact ⟨h x.queries, .inl ⟨nofun, rfl⟩⟩
  | remember q p => exact ⟨h, .inl ⟨nofun, rfl⟩⟩

/-- Steps one after the other that nothing interrupts. -/
def steps (o : Ongoing α) (s : AuthState) (xs : List Answers) : Ongoing α × AuthState :=
  xs.foldl (fun c x => c.1.step x c.2) (o, s)

/-- A program that nothing interrupts makes each of its runs. -/
theorem exists_steps {p : Program α} {s s' : AuthState} {history : List Exchange} {a : α}
    (h : p.Runs s history a s') (seen : AuthState) :
    ∃ xs seen', steps ⟨seen, p⟩ s xs = (⟨seen', .done a⟩, s') := by
  induction p generalizing s history seen with
  | done a =>
    obtain ⟨rfl, rfl, rfl⟩ := h
    exact ⟨[], seen, rfl⟩
  | snapshot k ih =>
    obtain ⟨xs, seen', hsteps⟩ := ih s h s
    exact ⟨default :: xs, seen', hsteps⟩
  | update f p ih =>
    obtain ⟨xs, seen', hsteps⟩ := ih h seen
    exact ⟨default :: xs, seen', hsteps⟩
  | exchange agent r k ih =>
    obtain ⟨o, rest, rfl, h⟩ := h
    obtain ⟨xs, seen', hsteps⟩ := ih o h seen
    exact ⟨{ (default : Answers) with outcome := o } :: xs, seen', hsteps⟩
  | drawId ids k ih =>
    obtain ⟨id, hid, h⟩ := h
    obtain ⟨xs, seen', hsteps⟩ := ih id h seen
    exact ⟨{ (default : Answers) with id := id } :: xs, seen', hsteps⟩
  | clock k ih =>
    obtain ⟨now, h⟩ := h
    obtain ⟨xs, seen', hsteps⟩ := ih now h seen
    exact ⟨{ (default : Answers) with now := now } :: xs, seen', hsteps⟩
  | sleep d p ih =>
    obtain ⟨xs, seen', hsteps⟩ := ih h seen
    exact ⟨default :: xs, seen', hsteps⟩
  | «recall» k ih =>
    obtain ⟨q, h⟩ := h
    obtain ⟨xs, seen', hsteps⟩ := ih q h seen
    exact ⟨{ (default : Answers) with queries := q } :: xs, seen', hsteps⟩
  | remember q p ih =>
    obtain ⟨xs, seen', hsteps⟩ := ih h seen
    exact ⟨default :: xs, seen', hsteps⟩

end Ongoing

/-- A context with the calls that clients have begun on it. -/
structure SharedContext where
  auth : AuthState
  calls : List (Ongoing (Result Unit))

/-- What happens next: a client with settings of its own begins a call, a call takes a step, or a
client limits the context to a tenant. -/
inductive ContextEvent where
  | begins (s : Settings) (call : ContextCall)
  | proceeds (i : Nat) (x : Answers)
  | setsTenant (tenant : Option String)

namespace SharedContext

def after (c : SharedContext) : ContextEvent → SharedContext
  | .begins s call => { c with calls := c.calls ++ [⟨c.auth, (call.action s).run⟩] }
  | .proceeds i x =>
    match c.calls[i]? with
    | some o => ⟨(o.step x c.auth).2, c.calls.set i (o.step x c.auth).1⟩
    | none => c
  | .setsTenant tenant =>
    let o : Ongoing Unit := ⟨c.auth, setTenant tenant⟩
    { c with auth := (o.step default c.auth).2 }

theorem after_proceeds_none {c : SharedContext} {i : Nat} (hi : c.calls[i]? = none) (x : Answers) :
    c.after (.proceeds i x) = c := by
  simp only [after, hi]

theorem after_proceeds_some {c : SharedContext} {i : Nat} {o : Ongoing (Result Unit)}
    (hi : c.calls[i]? = some o) (x : Answers) :
    c.after (.proceeds i x) = ⟨(o.step x c.auth).2, c.calls.set i (o.step x c.auth).1⟩ := by
  simp only [after, hi]

def run (schedule : List ContextEvent) : SharedContext := schedule.foldl after ⟨.empty, []⟩

@[simp] theorem run_nil : run [] = ⟨.empty, []⟩ := rfl

@[simp] theorem run_concat (past : List ContextEvent) (e : ContextEvent) :
    run (past ++ [e]) = (run past).after e := by
  simp [run]

/-- Every call in progress guarantees that it changes the context as clients do. -/
def IsOrderly (c : SharedContext) : Prop :=
  ∀ o ∈ c.calls, o.rest.Guarantees SessionChange (fun _ _ => True) o.seen

/-- The states that an event may leave: the state before, the same under another tenant, or what a
call in progress makes of it. -/
inductive Leaves (c : SharedContext) : ContextEvent → AuthState → Prop
  | begun (s : Settings) (call : ContextCall) : Leaves c (.begins s call) c.auth
  | kept {i : Nat} {x : Answers}
    (call : ∀ o f p, c.calls[i]? = some o → o.rest ≠ .update f p) : Leaves c (.proceeds i x) c.auth
  | changed {i : Nat} {x : Answers} {o : Ongoing (Result Unit)} {f : AuthState → AuthState}
    {p : Program (Result Unit)} (call : c.calls[i]? = some o) (update : o.rest = .update f p)
    (change : SessionChange o.seen f) : Leaves c (.proceeds i x) (f c.auth)
  | tenant (t : Option String) : Leaves c (.setsTenant t) { c.auth with tenant := t }

theorem IsOrderly.after {c : SharedContext} (h : c.IsOrderly) (e : ContextEvent) :
    (c.after e).IsOrderly ∧ c.Leaves e (c.after e).auth := by
  cases e with
  | begins s call =>
    refine ⟨fun o ho => ?_, .begun s call⟩
    rcases List.mem_append.1 ho with hold | hnew
    · exact h o hold
    · rw [List.mem_singleton.1 hnew]
      exact call.guarantees_action.program
  | setsTenant tenant => exact ⟨h, .tenant tenant⟩
  | proceeds i x =>
    cases hi : c.calls[i]? with
    | none =>
      rw [after_proceeds_none hi]
      refine ⟨h, .kept fun o f p ho => ?_⟩
      cases hi.symm.trans ho
    | some o =>
      obtain ⟨hrest, hauth⟩ := o.step_cases (h o (List.mem_of_getElem? hi)) x c.auth
      rw [after_proceeds_some hi]
      constructor
      · intro q hq
        rcases List.mem_or_eq_of_mem_set hq with hold | rfl
        · exact h q hold
        · exact hrest
      · rcases hauth with ⟨hno, hauth⟩ | ⟨f, p, hupdate, hchange, hauth⟩
        · rw [hauth]
          refine .kept fun q f p hq => ?_
          obtain rfl : o = q := Option.some.inj (hi.symm.trans hq)
          exact hno f p
        · rw [hauth]
          exact .changed hi hupdate hchange

theorem isOrderly_run (schedule : List ContextEvent) : (run schedule).IsOrderly := by
  induction schedule using List.reverseRecOn with
  | nil =>
    intro o ho
    cases ho
  | append_singleton past e ih =>
    rw [run_concat]
    exact (ih.after e).1

theorem leaves_run (past : List ContextEvent) (e : ContextEvent) :
    (run past).Leaves e (run (past ++ [e])).auth := by
  rw [run_concat]
  exact ((isOrderly_run past).after e).2

/-- What holds of a new context, under every tenant and after every change that clients make holds
along every schedule. -/
theorem auth_induction {P : AuthState → Prop} (hempty : P .empty)
    (htenant : ∀ x t, P x → P { x with tenant := t })
    (hchange : ∀ seen f x, SessionChange seen f → P x → P (f x)) (schedule : List ContextEvent) :
    P (run schedule).auth := by
  induction schedule using List.reverseRecOn with
  | nil => exact hempty
  | append_singleton past e ih =>
    have hleaves := leaves_run past e
    generalize (run (past ++ [e])).auth = auth at hleaves ⊢
    cases hleaves with
    | begun s call => exact ih
    | kept _ => exact ih
    | changed _ _ hf => exact hchange _ _ _ hf ih
    | tenant t => exact htenant _ t ih

theorem foldl_proceeds {c : SharedContext} {i : Nat} {o : Ongoing (Result Unit)}
    (hi : c.calls[i]? = some o) (xs : List Answers) :
    (xs.map (.proceeds i)).foldl after c =
      ⟨(o.steps c.auth xs).2, c.calls.set i (o.steps c.auth xs).1⟩ := by
  induction xs generalizing c o with
  | nil =>
    obtain ⟨hlt, rfl⟩ := List.getElem?_eq_some_iff.1 hi
    change c = ⟨c.auth, c.calls.set i c.calls[i]⟩
    rw [List.set_getElem_self]
  | cons x xs ih =>
    have hset : (c.calls.set i (o.step x c.auth).1)[i]? = some (o.step x c.auth).1 := by
      obtain ⟨hlt, -⟩ := List.getElem?_eq_some_iff.1 hi
      exact List.getElem?_set_self hlt
    rw [List.map_cons, List.foldl_cons, after_proceeds_some hi, ih hset, List.set_set]
    rfl

/-- Every run of a call alone is what a schedule makes of it that lets no other call proceed. -/
theorem exists_schedule_of_runs {s : Settings} {call : ContextCall} {past : List ContextEvent}
    {history : List Exchange} {r : Result Unit} {auth : AuthState}
    (h : (call.action s).Runs (run past).auth history r auth) :
    ∃ (xs : List Answers) (seen : AuthState),
      run (past ++ .begins s call :: xs.map (.proceeds (run past).calls.length)) =
        ⟨auth, (run past).calls ++ [⟨seen, .done r⟩]⟩ := by
  unfold Action.Runs at h
  obtain ⟨xs, seen, hsteps⟩ := Ongoing.exists_steps h (run past).auth
  refine ⟨xs, seen, ?_⟩
  have hbegun : ((run past).after (.begins s call)).calls[(run past).calls.length]? =
      some ⟨(run past).auth, (call.action s).run⟩ := List.getElem?_concat_length
  have hproceeds := foldl_proceeds hbegun xs
  have hrun : run (past ++ .begins s call :: xs.map (.proceeds (run past).calls.length)) =
      (xs.map (.proceeds (run past).calls.length)).foldl after
        ((run past).after (.begins s call)) := by
    unfold run
    rw [List.foldl_append, List.foldl_cons]
  have hauth : ((run past).after (.begins s call)).auth = (run past).auth := rfl
  rw [hrun, hproceeds, hauth, hsteps]
  change (⟨auth, ((run past).calls ++ [_]).set (run past).calls.length ⟨seen, .done r⟩⟩ :
    SharedContext) = _
  rw [List.set_append_right _ _ (Nat.le_refl _), Nat.sub_self]
  rfl

end SharedContext

end CloudDirector
