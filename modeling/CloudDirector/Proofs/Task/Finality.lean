import CloudDirector.Proofs.Task.Tracking
import Mathlib.Data.List.Induction

/-!
# Ends are final

A tracker never forgets that a task has ended. But it believes every snapshot: a running one of a
task that has ended makes the task pending again, beside its end. Nothing else does, so ends are
final just as long as no such snapshot is tracked.
-/
namespace CloudDirector

namespace Tracker

variable {t : Tracker} {id : String} {task : Task} {tasks : List Task}

/-- Whether a task is known to have ended. -/
def isFinished (t : Tracker) (id : String) : Bool := Keyed.contains id t.finished

/-- A task is pending although it is known to have ended. -/
def IsReopened (t : Tracker) (id : String) : Prop :=
  t.isPending id = true ∧ t.isFinished id = true

/-- Some snapshots reopen a task: the last of its snapshots is a running one, and the task had ended
before that. -/
def Reopens (t : Tracker) (tasks : List Task) (id : String) : Prop :=
  ∃ before task after, tasks = before ++ task :: after ∧ task.urn = id ∧
    task.status.isTerminal = false ∧ (∀ later ∈ after, later.urn ≠ id) ∧
    (before.foldl add t).isFinished id = true

theorem isFinished_finish {key : String} {status : TaskStatus} :
    (t.finish key status).isFinished id = true ↔ id = key ∨ t.isFinished id = true :=
  Keyed.contains_insert

theorem isPending_await {key href : String} :
    (t.await key href).isPending id = true ↔ id = key ∨ t.isPending id = true :=
  Keyed.contains_insert

/-- A snapshot decides whether its task is pending, and no other. -/
theorem isPending_add : (t.add task).isPending id = true ↔
    (id = task.urn ∧ task.status.isTerminal = false) ∨
      (id ≠ task.urn ∧ t.isPending id = true) := by
  have hlocate : (t.locate task).isPending id = t.isPending id := rfl
  rw [add_eq]
  cases hterminal : task.status.isTerminal with
  | true => simp [hlocate]
  | false =>
    rw [if_neg (by decide), isPending_await, hlocate]
    by_cases hid : id = task.urn <;> simp [hid]

theorem isFinished_add : (t.add task).isFinished id = true ↔
    (id = task.urn ∧ task.status.isTerminal = true) ∨ t.isFinished id = true := by
  have hlocate : (t.locate task).isFinished id = t.isFinished id := rfl
  rw [add_eq]
  cases hterminal : task.status.isTerminal with
  | true =>
    rw [if_pos rfl, isFinished_finish, hlocate]
    simp
  | false =>
    have hawait : ((t.locate task).await task.urn task.href).isFinished id = t.isFinished id := rfl
    rw [if_neg (by decide), hawait]
    simp

theorem isFinished_addAll (h : t.isFinished id = true) (tasks : List Task) :
    (tasks.foldl add t).isFinished id = true := by
  induction tasks generalizing t with
  | nil => exact h
  | cons task tasks ih => exact ih (isFinished_add.2 (.inr h))

theorem isPending_addAll_of_others (h : ∀ task ∈ tasks, task.urn ≠ id) :
    (tasks.foldl add t).isPending id = true ↔ t.isPending id = true := by
  induction tasks generalizing t with
  | nil => exact Iff.rfl
  | cons task tasks ih =>
    obtain ⟨hother, hothers⟩ := List.forall_mem_cons.1 h
    rw [List.foldl_cons, ih hothers, isPending_add]
    simp [Ne.symm hother]

theorem Reopens.isReopened (h : t.Reopens tasks id) : (tasks.foldl add t).IsReopened id := by
  obtain ⟨before, task, after, rfl, rfl, hrunning, hothers, hfinished⟩ := h
  rw [List.foldl_append, List.foldl_cons]
  constructor
  · exact (isPending_addAll_of_others hothers).2 (isPending_add.2 (.inl ⟨rfl, hrunning⟩))
  · exact isFinished_addAll (isFinished_add.2 (.inr hfinished)) after

/-- A task that is reopened after some snapshots was so before them, or they have reopened it. The
induction is on the snapshots from the last one back. -/
theorem reopened_of_addAll (h : (tasks.foldl add t).IsReopened id) :
    t.IsReopened id ∨ t.Reopens tasks id := by
  induction tasks using List.reverseRecOn with
  | nil => exact .inl h
  | append_singleton tasks task ih =>
    rw [List.foldl_append] at h
    obtain ⟨hpending, hfinished⟩ := h
    rcases isPending_add.1 hpending with ⟨rfl, hrunning⟩ | ⟨hother, hpending⟩
    · have hbefore : (tasks.foldl add t).isFinished task.urn = true := by
        rcases isFinished_add.1 hfinished with ⟨-, hterminal⟩ | hbefore
        · rw [hrunning] at hterminal
          cases hterminal
        · exact hbefore
      exact .inr ⟨tasks, task, [], rfl, rfl, hrunning, by simp, hbefore⟩
    · have hbefore : (tasks.foldl add t).isFinished id = true :=
        (isFinished_add.1 hfinished).resolve_left fun hself => hother hself.1
      refine (ih ⟨hpending, hbefore⟩).imp_right ?_
      rintro ⟨before, first, after, rfl, hurn, hrunning, hothers, hended⟩
      refine ⟨before, first, after ++ [task], by simp, hurn, hrunning, fun later hlater => ?_,
        hended⟩
      rcases List.mem_append.1 hlater with hlater | hlater
      · exact hothers later hlater
      · rw [List.mem_singleton.1 hlater]
        exact Ne.symm hother

theorem isFinished_answered (h : t.isFinished id = true) (records : List TaskRecord) :
    (t.answered records).isFinished id = true :=
  answered_induction (P := fun u => u.isFinished id = true) (fun _ _ h => h)
    (fun _ _ _ h => isFinished_finish.2 (.inr h)) h records

/-- Records reopen no task: one that they end is no longer pending. -/
theorem reopened_of_answered {records : List TaskRecord} (h : (t.answered records).IsReopened id) :
    t.IsReopened id := by
  refine answered_induction (P := fun u => u.IsReopened id → t.IsReopened id) (fun _ _ h => h) ?_
    (fun h => h) records h
  rintro u key status hbefore ⟨hpending, hfinished⟩
  obtain ⟨hne, hpending⟩ := isPending_finish.1 hpending
  exact hbefore ⟨hpending, (isFinished_finish.1 hfinished).resolve_left hne⟩

end Tracker

namespace Tracking

variable {x : Tracking} {id : String}

/-- What an event makes of the tracker. -/
theorem tracker_update (x : Tracking) (e : TrackingEvent) : (x.update e.change).2.tracker =
    match e with
    | .track tasks => if x.tracker.isSealed then x.tracker else tasks.foldl Tracker.add x.tracker
    | .sealOff => { x.tracker with isSealed := true }
    | .answer records => x.tracker.answered records := by
  obtain ⟨⟨isSealed, idsByHref, pending, finished, watermark⟩, isCanceled, result⟩ := x
  cases e with
  | track tasks => cases isSealed <;> rfl
  | sealOff => cases isSealed <;> rfl
  | answer records => rfl

theorem isFinished_update (h : x.tracker.isFinished id = true) (e : TrackingEvent) :
    (x.update e.change).2.tracker.isFinished id = true := by
  rw [tracker_update]
  cases e with
  | track tasks =>
    dsimp only
    split
    · exact h
    · exact Tracker.isFinished_addAll h tasks
  | sealOff => exact h
  | answer records => exact Tracker.isFinished_answered h records

theorem isFinished_after (h : x.tracker.isFinished id = true) (events : List TrackingEvent) :
    (x.after events).tracker.isFinished id = true := by
  induction events generalizing x with
  | nil => exact h
  | cons e events ih => exact ih (isFinished_update h e)

/-- Only a call that tracks tasks reopens one. -/
theorem reopened_of_update {e : TrackingEvent}
    (h : (x.update e.change).2.tracker.IsReopened id) :
    x.tracker.IsReopened id ∨ ∃ tasks, e = .track tasks ∧ x.tracker.isSealed = false ∧
      x.tracker.Reopens tasks id := by
  rw [tracker_update] at h
  cases e with
  | track tasks =>
    dsimp only at h
    split at h
    case isTrue => exact .inl h
    case isFalse hopen =>
      exact (Tracker.reopened_of_addAll h).imp_right fun hreopens =>
        ⟨tasks, rfl, by simpa using hopen, hreopens⟩
  | sealOff => exact .inl h
  | answer records => exact .inl (Tracker.reopened_of_answered h)

/-- A task that is reopened was reopened by one of the calls. -/
theorem reopened_of_after {events : List TrackingEvent}
    (h : (x.after events).tracker.IsReopened id) : x.tracker.IsReopened id ∨
      ∃ before tasks later, events = before ++ .track tasks :: later ∧
        (x.after before).tracker.isSealed = false ∧
        (x.after before).tracker.Reopens tasks id := by
  induction events generalizing x with
  | nil => exact .inl h
  | cons e events ih =>
    obtain hupdate | ⟨before, tasks, later, rfl, hopen, hreopens⟩ := ih h
    · refine (reopened_of_update hupdate).imp_right ?_
      rintro ⟨tasks, rfl, hopen, hreopens⟩
      exact ⟨[], tasks, events, rfl, hopen, hreopens⟩
    · exact .inr ⟨e :: before, tasks, later, rfl, hopen, hreopens⟩

/-- Along a run a task that has ended stays so. It is never pending from then on just if no call
reopens it: none tracks a running snapshot of it after its end. -/
theorem ends_final_iff (events : List TrackingEvent) (id : String) :
    (∀ before between later, events = before ++ between ++ later →
      (empty.after before).tracker.isFinished id = true →
        (empty.after (before ++ between)).tracker.isFinished id = true) ∧
    ((∀ before between later, events = before ++ between ++ later →
      (empty.after before).tracker.isFinished id = true →
        (empty.after (before ++ between)).tracker.isPending id = false) ↔
      ∀ before tasks later, events = before ++ .track tasks :: later →
        (empty.after before).tracker.isSealed = false →
          ¬ (empty.after before).tracker.Reopens tasks id) := by
  have hkept (before between : List TrackingEvent)
      (hfinished : (empty.after before).tracker.isFinished id = true) :
      (empty.after (before ++ between)).tracker.isFinished id = true := by
    rw [after_append]
    exact isFinished_after hfinished between
  refine ⟨fun before between _ _ => hkept before between, ?_, ?_⟩
  · intro hfinal before tasks later hevents hopen hreopens
    have hreopened : (empty.after (before ++ [.track tasks])).tracker.IsReopened id := by
      rw [after_append]
      change ((empty.after before).update
        (TrackingEvent.track tasks).change).2.tracker.IsReopened id
      rw [tracker_update]
      simpa [hopen] using hreopens.isReopened
    have hpending := hfinal (before ++ [.track tasks]) [] later (by simpa using hevents)
      hreopened.2
    rw [List.append_nil, hreopened.1] at hpending
    cases hpending
  · intro hnone before between later hevents hfinished
    by_contra hpending
    have hreopened : (empty.after (before ++ between)).tracker.IsReopened id :=
      ⟨by simpa using hpending, hkept before between hfinished⟩
    obtain hstart | ⟨first, tasks, rest, hsplit, hopen, hreopens⟩ := reopened_of_after hreopened
    · cases hstart.1
    · refine hnone first tasks (rest ++ later) ?_ hopen hreopens
      rw [hevents, hsplit]
      simp

/-- An old snapshot that is tracked late reopens its task, which then is waited for. -/
theorem ends_not_final_of_old_snapshot :
    let ended : Task := ⟨"a", some "1", none, none, .success, none, none, none, none, []⟩
    let events : List TrackingEvent := [.track [ended], .track [{ ended with status := .running }],
      .sealOff]
    (empty.after events).tracker.IsReopened "1" ∧ (empty.after events).tracker.result? = none ∧
      ¬ ∀ before between later, events = before ++ between ++ later →
        (empty.after before).tracker.isFinished "1" = true →
          (empty.after (before ++ between)).tracker.isPending "1" = false := by
  intro ended events
  refine ⟨⟨by decide, by decide⟩, by decide, fun hfinal => ?_⟩
  refine (ends_final_iff events "1").2.1 hfinal [.track [ended]] [{ ended with status := .running }]
    [.sealOff] rfl rfl ?_
  exact ⟨[], _, [], rfl, rfl, rfl, by simp, by decide⟩

end Tracking

end CloudDirector
