import CloudDirector.Program

/-!
# What a program guarantees among others

A program on a context that other programs change as well sees a state only when it looks, and what
it does afterwards may rest on a state that has been replaced since. A guarantee therefore speaks of
the state at which the program looked last: it says which changes the program may make to the
context and what it may end with, whatever it sees and is told on the way.
-/
namespace CloudDirector
open Http Time

namespace Program

variable {α β : Type} {rule rule' : AuthState → (AuthState → AuthState) → Prop}
  {ends ends' : AuthState → α → Prop} {seen : AuthState}

/-- A program that looked last at the state `seen` makes only changes that the rule allows for the
state at which it looked last, and so is its result. -/
def Guarantees (rule : AuthState → (AuthState → AuthState) → Prop) (ends : AuthState → α → Prop) :
    Program α → AuthState → Prop
  | .done a, seen => ends seen a
  | .snapshot k, _ => ∀ s, (k s).Guarantees rule ends s
  | .update f p, seen => rule seen f ∧ p.Guarantees rule ends seen
  | .exchange _ _ k, seen => ∀ o, (k o).Guarantees rule ends seen
  | .drawId _ k, seen => ∀ id, (k id).Guarantees rule ends seen
  | .clock k, seen => ∀ now, (k now).Guarantees rule ends seen
  | .sleep _ p, seen => p.Guarantees rule ends seen
  | .recall k, seen => ∀ q, (k q).Guarantees rule ends seen
  | .remember _ p, seen => p.Guarantees rule ends seen

theorem guarantees_bind {p : Program α} {f : α → Program β} {ends : AuthState → β → Prop} :
    (p >>= f).Guarantees rule ends seen ↔
      p.Guarantees rule (fun x a => (f a).Guarantees rule ends x) seen := by
  change (p.bind f).Guarantees rule ends seen ↔ _
  induction p generalizing seen with
  | done a => exact Iff.rfl
  | snapshot k ih => exact forall_congr' fun s => ih s
  | update g p ih => exact and_congr_right fun _ => ih
  | exchange agent r k ih => exact forall_congr' fun o => ih o
  | drawId ids k ih => exact forall_congr' fun id => ih id
  | clock k ih => exact forall_congr' fun now => ih now
  | sleep d p ih => exact ih
  | «recall» k ih => exact forall_congr' fun q => ih q
  | remember q p ih => exact ih

theorem Guarantees.imp {p : Program α} (h : p.Guarantees rule ends seen)
    (hrule : ∀ x f, rule x f → rule' x f) (hends : ∀ x a, ends x a → ends' x a) :
    p.Guarantees rule' ends' seen := by
  induction p generalizing seen with
  | done a => exact hends seen a h
  | snapshot k ih => exact fun s => ih s (h s)
  | update f p ih => exact ⟨hrule seen f h.1, ih h.2⟩
  | exchange agent r k ih => exact fun o => ih o (h o)
  | drawId ids k ih => exact fun id => ih id (h id)
  | clock k ih => exact fun now => ih now (h now)
  | sleep d p ih => exact ih h
  | «recall» k ih => exact fun q => ih q (h q)
  | remember q p ih => exact ih h

end Program

namespace Action

variable {α β : Type} {rule : AuthState → (AuthState → AuthState) → Prop}
  {ends mid : AuthState → α → Prop} {seen : AuthState}

/-- The guarantee of an action, which says nothing of the errors with which it may end. -/
def Guarantees (rule : AuthState → (AuthState → AuthState) → Prop) (ends : AuthState → α → Prop)
    (a : Action α) (seen : AuthState) : Prop :=
  Program.Guarantees rule (fun x r => ∀ v, r = .ok v → ends x v) a.run seen

@[simp] theorem guarantees_pure {v : α} :
    Guarantees rule ends (pure v) seen ↔ ends seen v :=
  ⟨fun h => h v rfl, fun h _ hv => Except.ok.inj hv ▸ h⟩

@[simp] theorem guarantees_throw {e : Error} : Guarantees rule ends (throw e) seen := nofun

@[simp] theorem guarantees_result {x : Result α} :
    Guarantees rule ends (liftM x) seen ↔ ∀ v, x = .ok v → ends seen v := Iff.rfl

theorem guarantees_program {p : Program α} :
    Guarantees rule ends (liftM p) seen ↔ p.Guarantees rule ends seen := by
  change Program.Guarantees rule _ (p >>= fun a => .done (.ok a : Result α)) seen ↔ _
  rw [Program.guarantees_bind]
  have hresult (x : AuthState) (a : α) :
      (∀ v, (Except.ok a : Result α) = .ok v → ends x v) ↔ ends x a :=
    ⟨fun h => h a rfl, fun h _ hv => Except.ok.inj hv ▸ h⟩
  constructor
  · intro h
    exact h.imp (fun _ _ hf => hf) fun x a ha => (hresult x a).1 ha
  · intro h
    exact h.imp (fun _ _ hf => hf) fun x a ha => (hresult x a).2 ha

@[simp] theorem guarantees_modify {f : AuthState → AuthState} {ends : AuthState → Unit → Prop} :
    Guarantees rule ends (liftM (Program.modify f)) seen ↔ rule seen f ∧ ends seen () :=
  guarantees_program

/-- After an error nothing more is done, so only results are passed on. -/
theorem Guarantees.bind {a : Action α} {f : α → Action β} {ends : AuthState → β → Prop}
    (ha : Guarantees rule mid a seen) (hf : ∀ x v, mid x v → Guarantees rule ends (f v) x) :
    Guarantees rule ends (a >>= f) seen := by
  unfold Guarantees
  rw [ExceptT.run_bind, Program.guarantees_bind]
  apply Program.Guarantees.imp ha (fun _ _ h => h)
  intro x r hr
  cases r with
  | ok v => exact hf x v (hr v rfl)
  | error e => exact nofun

theorem Guarantees.attempt {a : Action α} (h : Guarantees rule mid a seen) :
    Guarantees rule (fun x r => ∀ v, r = .ok v → mid x v) (attempt a) seen := by
  change Program.Guarantees rule _ (a.run >>= fun r => .done (.ok r : Result (Result α))) seen
  rw [Program.guarantees_bind]
  apply Program.Guarantees.imp h (fun _ _ hf => hf)
  intro x r hr s hs
  cases hs
  exact hr

@[simp] theorem guarantees_result_bind {x : Result α} {f : α → Action β}
    {ends : AuthState → β → Prop} :
    Guarantees rule ends (liftM x >>= f) seen ↔
      ∀ v, x = .ok v → Guarantees rule ends (f v) seen := by
  cases x with
  | ok v => exact ⟨fun h _ hv => Except.ok.inj hv ▸ h, fun h => h v rfl⟩
  | error e => exact ⟨fun _ => nofun, fun _ => nofun⟩

@[simp] theorem guarantees_getState_bind {f : AuthState → Action β} {ends : AuthState → β → Prop} :
    Guarantees rule ends (liftM Program.getState >>= f) seen ↔
      ∀ s, Guarantees rule ends (f s) s := Iff.rfl

@[simp] theorem guarantees_draw_bind {ids : RequestIds} {f : String → Action β}
    {ends : AuthState → β → Prop} :
    Guarantees rule ends (liftM (Program.draw ids) >>= f) seen ↔
      ∀ id, Guarantees rule ends (f id) seen := Iff.rfl

@[simp] theorem guarantees_now_bind {f : Instant → Action β} {ends : AuthState → β → Prop} :
    Guarantees rule ends (liftM Program.now >>= f) seen ↔
      ∀ now, Guarantees rule ends (f now) seen := Iff.rfl

@[simp] theorem guarantees_modify_bind {g : AuthState → AuthState} {f : Unit → Action β}
    {ends : AuthState → β → Prop} :
    Guarantees rule ends (liftM (Program.modify g) >>= f) seen ↔
      rule seen g ∧ Guarantees rule ends (f ()) seen := Iff.rfl

theorem Guarantees.program {a : Action α} (h : Guarantees rule ends a seen) :
    Program.Guarantees rule (fun _ _ => True) a.run seen :=
  Program.Guarantees.imp h (fun _ _ hf => hf) fun _ _ _ => trivial

-- Guarantees of a whole operation are put together from those of its parts, not evaluated.
attribute [irreducible] Guarantees

end Action

end CloudDirector
