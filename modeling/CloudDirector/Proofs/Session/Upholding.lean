import CloudDirector.Proofs.Client.Retrying
import CloudDirector.Proofs.Program.Upholds
import CloudDirector.Proofs.Session.Sharing

/-!
# What shared contexts keep up

A shared context upholds an invariant if its state satisfies the invariant and all calls in progress
uphold it. Then every event that keeps the invariant leads to a context that upholds it again, in
whatever order the calls proceed, and every request on the way is as it should be. Calls without
credentials log in nowhere, so they uphold all that their attempts do.
-/
namespace CloudDirector
open Http

variable {s : Settings} {inv : AuthState → Prop} {fit : Request → Prop}

theorem Attempt.upholds_prepare {a : Attempt} :
    (a.prepare s).Upholds inv fit fun r => ∃ id now, a.request s id now = .ok r := by
  unfold Attempt.prepare
  rw [Action.upholds_result_bind]
  rintro opening hopening id now r hr
  exact ⟨id, now, Result.bind_eq_ok.2 ⟨opening, hopening, hr⟩⟩

theorem beforeRetry_of_no_credentials {x : AuthState} (h : x.credentials = none) (f : Failure) :
    beforeRetry s x f = pure () := by
  unfold beforeRetry renewSession
  rw [h]
  exact ite_self _

/-- Attempts in states without credentials uphold every invariant from which they are assembled as
they should be. The induction is on the attempts that are left. -/
theorem upholds_attempts {p : RequestPlan} {body : Option String}
    (hnone : ∀ x, inv x → x.credentials = none)
    (hfit : ∀ x id now r, inv x → (p.attempt body x).request s id now = .ok r → fit r)
    (more attempt : Nat) : (attempts s p body more attempt).Upholds inv fit fun _ => True := by
  induction more using Nat.strongRecOn generalizing attempt with
  | ind more ih =>
    unfold attempts
    rw [Action.upholds_getState_bind]
    intro x hx
    apply Action.Upholds.bind Attempt.upholds_prepare
    rintro r ⟨id, now, hr⟩
    have hsend : (send s r).Upholds inv fit fun _ => True :=
      ⟨hfit x id now r hx hr, fun _ => trivial⟩
    apply (Action.upholds_program hsend).bind
    intro result _
    cases result with
    | ok reply => exact Action.upholds_pure trivial
    | error f =>
      dsimp only
      split
      · cases more with
        | zero => exact Action.upholds_throw
        | succ left =>
          dsimp only
          rw [beforeRetry_of_no_credentials (hnone x hx) f, pure_bind]
          exact ih left (Nat.lt_succ_self left) (attempt + 1)
      · exact Action.upholds_throw

namespace SharedContext

/-- One of the calls in progress is about to exchange a request. -/
def Sends (c : SharedContext) (r : Request) : Prop :=
  ∃ o ∈ c.calls, ∃ agent next, o.rest = .exchange agent r next

/-- The requests that calls in progress are about to exchange. -/
def requests (c : SharedContext) : List Request :=
  c.calls.filterMap fun o =>
    match o.rest with
    | .exchange _ r _ => some r
    | _ => none

theorem sends_iff {c : SharedContext} {r : Request} : c.Sends r ↔ r ∈ c.requests := by
  unfold Sends requests
  simp only [List.mem_filterMap]
  refine exists_congr fun o => and_congr_right fun _ => ?_
  cases o.rest <;> simp

/-- The state of the context satisfies an invariant, which all calls in progress uphold. -/
structure Upholds (c : SharedContext) (inv : AuthState → Prop) (fit : Request → Prop) : Prop where
  auth : inv c.auth
  calls : ∀ o ∈ c.calls, o.rest.Upholds inv fit fun _ => True

theorem Upholds.fit_of_sends {c : SharedContext} (h : c.Upholds inv fit) {r : Request}
    (hr : c.Sends r) : fit r := by
  obtain ⟨o, ho, agent, next, hrest⟩ := hr
  have hcall := h.calls o ho
  rw [hrest] at hcall
  exact hcall.1

theorem Ongoing.upholds_step {α : Type} {ends : α → Prop} {o : Ongoing α}
    (h : o.rest.Upholds inv fit ends) (x : Answers) {y : AuthState} (hy : inv y) :
    (o.step x y).1.rest.Upholds inv fit ends ∧ inv (o.step x y).2 := by
  obtain ⟨seen, rest⟩ := o
  cases rest with
  | done a => exact ⟨h, hy⟩
  | snapshot k => exact ⟨h y hy, hy⟩
  | update f p => exact ⟨h.2, h.1 y hy⟩
  | exchange agent r k => exact ⟨h.2 x.outcome, hy⟩
  | drawId ids k => exact ⟨h x.id, hy⟩
  | clock k => exact ⟨h x.now, hy⟩
  | sleep d p => exact ⟨h, hy⟩
  | «recall» k => exact ⟨h x.queries, hy⟩
  | remember q p => exact ⟨h, hy⟩

/-- An event keeps an invariant if it is the step of a call, begins a call that upholds it, or sets
a tenant that does not matter for it. -/
def Keeps (inv : AuthState → Prop) (fit : Request → Prop) : ContextEvent → Prop
  | .begins s call => (call.action s).Upholds inv fit fun _ => True
  | .proceeds _ _ => True
  | .setsTenant tenant => ∀ x, inv x → inv { x with tenant := tenant }

theorem Upholds.after {c : SharedContext} (h : c.Upholds inv fit) {e : ContextEvent}
    (he : Keeps inv fit e) : (c.after e).Upholds inv fit := by
  cases e with
  | begins s call =>
    refine ⟨h.auth, fun o ho => ?_⟩
    rcases List.mem_append.1 ho with hold | hnew
    · exact h.calls o hold
    · rw [List.mem_singleton.1 hnew]
      exact Program.Upholds.imp he fun _ _ => trivial
  | setsTenant tenant => exact ⟨he _ h.auth, h.calls⟩
  | proceeds i x =>
    cases hi : c.calls[i]? with
    | none =>
      rw [after_proceeds_none hi]
      exact h
    | some o =>
      obtain ⟨hrest, hauth⟩ := Ongoing.upholds_step (h.calls o (List.mem_of_getElem? hi)) x h.auth
      rw [after_proceeds_some hi]
      refine ⟨hauth, fun q hq => ?_⟩
      rcases List.mem_or_eq_of_mem_set hq with hold | rfl
      · exact h.calls q hold
      · exact hrest

theorem Upholds.foldl_after {c : SharedContext} (h : c.Upholds inv fit) {events : List ContextEvent}
    (hevents : ∀ e ∈ events, Keeps inv fit e) : (events.foldl SharedContext.after c).Upholds inv fit := by
  induction events generalizing c with
  | nil => exact h
  | cons e events ih =>
    obtain ⟨he, hrest⟩ := List.forall_mem_cons.1 hevents
    exact ih (h.after he) hrest

end SharedContext

end CloudDirector
