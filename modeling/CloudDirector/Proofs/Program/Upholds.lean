import CloudDirector.Program

/-!
# What a program keeps up

A program upholds an invariant of the context if, as long as each state at which it looks satisfies
the invariant, its own changes keep it and every request that it exchanges is as it should be. This
holds whatever the program is told on the way, so it holds among other programs that keep the
invariant too.
-/
namespace CloudDirector
open Http Time

namespace Program

variable {α β : Type} {inv : AuthState → Prop} {fit : Request → Prop} {ends ends' : α → Prop}

/-- While the context satisfies `inv`, a program exchanges only requests that are `fit`, keeps `inv`
and ends with a result as `ends` says. -/
def Upholds (inv : AuthState → Prop) (fit : Request → Prop) (ends : α → Prop) : Program α → Prop
  | .done a => ends a
  | .snapshot k => ∀ x, inv x → (k x).Upholds inv fit ends
  | .update f p => (∀ x, inv x → inv (f x)) ∧ p.Upholds inv fit ends
  | .exchange _ r k => fit r ∧ ∀ o, (k o).Upholds inv fit ends
  | .drawId _ k => ∀ id, (k id).Upholds inv fit ends
  | .clock k => ∀ now, (k now).Upholds inv fit ends
  | .sleep _ p => p.Upholds inv fit ends
  | .recall k => ∀ q, (k q).Upholds inv fit ends
  | .remember _ p => p.Upholds inv fit ends

theorem upholds_bind {p : Program α} {f : α → Program β} {ends : β → Prop} :
    (p >>= f).Upholds inv fit ends ↔ p.Upholds inv fit fun a => (f a).Upholds inv fit ends := by
  change (p.bind f).Upholds inv fit ends ↔ _
  induction p with
  | done a => exact Iff.rfl
  | snapshot k ih => exact forall_congr' fun x => imp_congr_right fun _ => ih x
  | update g p ih => exact and_congr_right fun _ => ih
  | exchange agent r k ih => exact and_congr_right fun _ => forall_congr' fun o => ih o
  | drawId ids k ih => exact forall_congr' fun id => ih id
  | clock k ih => exact forall_congr' fun now => ih now
  | sleep d p ih => exact ih
  | «recall» k ih => exact forall_congr' fun q => ih q
  | remember q p ih => exact ih

theorem Upholds.imp {p : Program α} (h : p.Upholds inv fit ends) (hends : ∀ a, ends a → ends' a) :
    p.Upholds inv fit ends' := by
  induction p with
  | done a => exact hends a h
  | snapshot k ih => exact fun x hx => ih x (h x hx)
  | update f p ih => exact ⟨h.1, ih h.2⟩
  | exchange agent r k ih => exact ⟨h.1, fun o => ih o (h.2 o)⟩
  | drawId ids k ih => exact fun id => ih id (h id)
  | clock k ih => exact fun now => ih now (h now)
  | sleep d p ih => exact ih h
  | «recall» k ih => exact fun q => ih q (h q)
  | remember q p ih => exact ih h

end Program

namespace Action

variable {α β : Type} {inv : AuthState → Prop} {fit : Request → Prop} {mid : α → Prop}
  {ends : β → Prop}

/-- What an action keeps up; nothing is said of the errors with which it may end. -/
def Upholds (inv : AuthState → Prop) (fit : Request → Prop) (ends : α → Prop) (a : Action α) :
    Prop :=
  Program.Upholds inv fit (fun r => ∀ v, r = .ok v → ends v) a.run

theorem upholds_pure {v : β} (h : ends v) : Upholds inv fit ends (pure v) := by
  rintro _ ⟨⟩
  exact h

theorem upholds_throw {e : Error} : Upholds inv fit ends (throw e) := nofun

theorem Upholds.bind {a : Action α} {f : α → Action β} (ha : Upholds inv fit mid a)
    (hf : ∀ v, mid v → Upholds inv fit ends (f v)) : Upholds inv fit ends (a >>= f) := by
  unfold Upholds
  rw [ExceptT.run_bind, Program.upholds_bind]
  apply Program.Upholds.imp ha
  intro r hr
  cases r with
  | ok v => exact hf v (hr v rfl)
  | error e => exact nofun

@[simp] theorem upholds_result_bind {x : Result α} {f : α → Action β} :
    Upholds inv fit ends (liftM x >>= f) ↔ ∀ v, x = .ok v → Upholds inv fit ends (f v) := by
  cases x with
  | ok v => exact ⟨fun h _ hv => Except.ok.inj hv ▸ h, fun h => h v rfl⟩
  | error e => exact ⟨fun _ => nofun, fun _ => nofun⟩

@[simp] theorem upholds_getState_bind {f : AuthState → Action β} :
    Upholds inv fit ends (liftM Program.getState >>= f) ↔
      ∀ x, inv x → Upholds inv fit ends (f x) := Iff.rfl

theorem upholds_program {p : Program α} (h : p.Upholds inv fit mid) :
    Upholds inv fit mid (liftM p) := by
  change Program.Upholds inv fit _ (p >>= fun a => .done (.ok a : Result α))
  rw [Program.upholds_bind]
  exact h.imp fun a ha v hv => Except.ok.inj hv ▸ ha

end Action

end CloudDirector
