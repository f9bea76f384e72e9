import CloudDirector.Proofs.Program.Runs
import CloudDirector.Proofs.Task.Tracker
import CloudDirector.Task.Tracking

/-!
# Tracking to the end

A tracking takes calls and the answers of polls in any order. It is sealed once, and refuses tasks
from then on; what its watching resolves to describes the tasks that it took.
-/
namespace CloudDirector
open Http Time

namespace Tracker

variable {s : Settings} {patience : Nat} {t t' : Tracker} {st st' : AuthState}
  {history : List Exchange}

def answered (t : Tracker) (records : List TaskRecord) : Tracker :=
  { t with watermark := t.watermark.settled }.absorb records

/-- An answer settles its records, and moves the watermark. -/
theorem exists_answered_eq (t : Tracker) (records : List TaskRecord) : ∃ watermark,
    t.answered records =
      { records.foldl settle { t with watermark := t.watermark.settled } with watermark } := by
  unfold answered absorb
  cases latestEnd records with
  | none => exact ⟨_, rfl⟩
  | some last => exact ⟨_, rfl⟩

/-- What stays true when a task is finished, whatever the watermark, stays true after an answer. -/
theorem answered_induction {P : Tracker → Prop}
    (hwatermark : ∀ t watermark, P t → P { t with watermark })
    (hfinish : ∀ t id status, P t → P (t.finish id status)) (h : P t) (records : List TaskRecord) :
    P (t.answered records) := by
  obtain ⟨watermark, heq⟩ := t.exists_answered_eq records
  rw [heq]
  exact hwatermark _ _ (settleAll_induction hfinish (hwatermark _ _ h) records)

/-- Records answer the question of a poll, all of them. -/
def IsAnswer (s : Settings) (patience : Nat) (t : Tracker) (records : List TaskRecord)
    (st : AuthState) (history : List Exchange) (st' : AuthState) : Prop :=
  ((RecordStream.unasked (endedQuery t.watermark.settled.mark)).all s TaskRecord.ofDocument
    patience).Runs st history (records, .ended) st'

/-- A poll that succeeds was answered with records, which it took in. -/
theorem runs_poll : (t.poll s patience).Runs st history (.ok (some t')) st' ↔
    ∃ records, t.IsAnswer s patience records st history st' ∧ t' = t.answered records := by
  unfold poll
  rw [Action.runs_program_bind]
  constructor
  · rintro ⟨before, ⟨records, ending⟩, st₁, after, hall, h, rfl⟩
    cases ending with
    | ended =>
      obtain ⟨rfl, hr, rfl⟩ := Action.runs_pure.1 h
      cases hr
      rw [List.append_nil]
      exact ⟨records, hall, rfl⟩
    | failed e => cases (Action.runs_throw.1 h).2.1
    | enough => cases (Action.runs_pure.1 h).2.1
    | waiting => cases (Action.runs_pure.1 h).2.1
  · rintro ⟨records, hall, rfl⟩
    exact ⟨history, _, st', [], hall, Action.runs_pure.2 ⟨rfl, rfl, rfl⟩, by simp⟩

/-- Polls in turn, each while tasks are pending, with the records that answer them. -/
inductive Polls (s : Settings) (patience : Nat) : Tracker → List (List TaskRecord) → AuthState →
    List Exchange → AuthState → Prop
  | nil {t : Tracker} {st : AuthState} : Polls s patience t [] st [] st
  | cons {t : Tracker} {records : List TaskRecord} {answers : List (List TaskRecord)}
    {st st₁ st' : AuthState} {before after : List Exchange} (pending : t.pending ≠ [])
    (answer : t.IsAnswer s patience records st before st₁)
    (rest : Polls s patience (t.answered records) answers st₁ after st') :
    Polls s patience t (records :: answers) st (before ++ after) st'

/-- Watching that resolves has polled until nothing was pending. -/
theorem polls_of_watch {polls : Nat} {result : List (String × TaskStatus)}
    (h : (t.watch s patience polls).Runs st history (.ok (some result)) st') :
    ∃ answers, Polls s patience t answers st history st' ∧
      (answers.foldl answered t).result? = some result := by
  induction polls using Nat.strongRecOn generalizing t st history with
  | ind polls ih =>
    unfold watch at h
    cases hresult : t.result? with
    | some found =>
      rw [hresult] at h
      obtain ⟨rfl, hr, rfl⟩ := Action.runs_pure.1 h
      cases hr
      exact ⟨[], .nil, hresult⟩
    | none =>
      rw [hresult] at h
      have hpending : t.pending ≠ [] := fun hempty => by simp [result?, hempty] at hresult
      cases polls with
      | zero => cases (Action.runs_pure.1 h).2.1
      | succ polls =>
        obtain ⟨_, -, hr⟩ | ⟨before, found, st₁, after, hpoll, h, rfl⟩ := Action.runs_bind.1 h
        · cases hr
        cases found with
        | none => cases (Action.runs_pure.1 h).2.1
        | some next =>
          obtain ⟨records, hanswer, rfl⟩ := runs_poll.1 hpoll
          have hrest : ((t.answered records).watch s patience polls).Runs st₁ after
              (.ok (some result)) st' := by
            dsimp only at h
            split at h
            · exact Action.runs_wait_bind.1 h
            · exact h
          obtain ⟨answers, hpolls, hlast⟩ := ih polls (Nat.lt_succ_self polls) hrest
          exact ⟨records :: answers, .cons hpending hanswer hpolls, hlast⟩

theorem Sound.answered {tasks : List Task} {records : List TaskRecord}
    (h : Sound tasks records t) (more : List TaskRecord) :
    Sound tasks (records ++ more) (t.answered more) := by
  have hread : Sound tasks records { t with watermark := t.watermark.settled } :=
    h.of_eq rfl rfl rfl
  exact hread.absorb more

theorem Sound.answeredAll {tasks : List Task} {records : List TaskRecord}
    (h : Sound tasks records t) (answers : List (List TaskRecord)) :
    Sound tasks (records ++ answers.flatten) (answers.foldl Tracker.answered t) := by
  induction answers generalizing records t with
  | nil => simpa using h
  | cons more answers ih => simpa using ih (h.answered more)

end Tracker

/-- What happens to a tracking: its two calls, and the answers of polls. -/
inductive TrackingEvent where
  | track (tasks : List Task)
  | sealOff
  | answer (records : List TaskRecord)

namespace TrackingEvent

def change : TrackingEvent → Tracker → Result Tracker
  | .track tasks, t => t.track tasks
  | .sealOff, t => t.sealOff
  | .answer records, t => .ok (t.answered records)

def tasks : TrackingEvent × Result Unit → List Task
  | (.track tasks, .ok _) => tasks
  | _ => []

def records : TrackingEvent × Result Unit → List TaskRecord
  | (.answer records, _) => records
  | _ => []

end TrackingEvent

namespace Tracking

def after (x : Tracking) : List TrackingEvent → Tracking
  | [] => x
  | e :: events => (x.update e.change).2.after events

/-- Events in turn, each with its result. -/
def log (x : Tracking) : List TrackingEvent → List (TrackingEvent × Result Unit)
  | [] => []
  | e :: events => (e, (x.update e.change).1) :: (x.update e.change).2.log events

variable {x : Tracking}

theorem after_append (events more : List TrackingEvent) :
    x.after (events ++ more) = (x.after events).after more := by
  induction events generalizing x with
  | nil => rfl
  | cons e events ih => exact ih

/-- A sealed tracking refuses every call and stays as it is. -/
theorem update_of_isSealed (h : x.tracker.isSealed = true) {e : TrackingEvent}
    (he : ∀ records, e ≠ .answer records) : x.update e.change = (.error .trackerSealed, x) := by
  cases e with
  | track tasks => simp [update, TrackingEvent.change, Tracker.track, h]
  | sealOff => simp [update, TrackingEvent.change, Tracker.sealOff, h]
  | answer records => exact absurd rfl (he records)

theorem isSealed_answered (t : Tracker) (records : List TaskRecord) :
    (t.answered records).isSealed = t.isSealed :=
  Tracker.answered_induction (P := fun u => u.isSealed = t.isSealed) (fun _ _ h => h)
    (fun _ _ _ h => h) rfl records

theorem isSealed_after (h : x.tracker.isSealed = true) (events : List TrackingEvent) :
    (x.after events).tracker.isSealed = true := by
  induction events generalizing x with
  | nil => exact h
  | cons e events ih =>
    apply ih
    cases e with
    | answer records => exact (isSealed_answered _ _).trans h
    | track tasks => rwa [update_of_isSealed (e := .track tasks) h (by simp)]
    | sealOff => rwa [update_of_isSealed (e := .sealOff) h (by simp)]

/-- After a call that seals a tracking, whatever its result, the tracking is sealed. -/
theorem isSealed_of_mem {events : List TrackingEvent} (h : .sealOff ∈ events) :
    (x.after events).tracker.isSealed = true := by
  obtain ⟨before, rest, rfl⟩ := List.append_of_mem h
  rw [after_append]
  refine isSealed_after ?_ rest
  cases hsealed : (x.after before).tracker.isSealed with
  | true => rwa [update_of_isSealed (e := .sealOff) hsealed (by simp)]
  | false => simp [update, TrackingEvent.change, Tracker.sealOff, hsealed]

private theorem sealed_not_mem_log (h : x.tracker.isSealed = true) (events : List TrackingEvent) :
    (.sealOff, .ok ()) ∉ x.log events := by
  induction events generalizing x with
  | nil => exact List.not_mem_nil
  | cons e events ih =>
    intro hmem
    rcases List.mem_cons.1 hmem with heq | hmem
    · obtain ⟨rfl, hok⟩ := Prod.mk.inj heq
      rw [update_of_isSealed (e := .sealOff) h (by simp)] at hok
      cases hok
    · exact ih (isSealed_after h [e]) hmem

theorem sealed_once (events : List TrackingEvent) :
    (x.log events).Pairwise fun a b => ¬ (a = (.sealOff, .ok ()) ∧ b = (.sealOff, .ok ())) := by
  induction events generalizing x with
  | nil => exact List.Pairwise.nil
  | cons e events ih =>
    refine List.pairwise_cons.2 ⟨fun b hb => ?_, ih⟩
    rintro ⟨heq, rfl⟩
    obtain ⟨rfl, -⟩ := Prod.mk.inj heq
    exact sealed_not_mem_log (isSealed_of_mem (List.mem_singleton_self _)) events hb

/-- Snapshots, answers and the seal preserve a property of a tracker, of the tasks that it took and
of the records that it was told. -/
structure IsPreserved (P : List Task → List TaskRecord → Tracker → Prop) : Prop where
  add : ∀ tasks records t task, P tasks records t → P (tasks ++ [task]) records (t.add task)
  answered : ∀ tasks records t more, P tasks records t →
    P tasks (records ++ more) (t.answered more)
  sealed : ∀ tasks records t, P tasks records t → P tasks records { t with isSealed := true }

namespace IsPreserved

variable {P : List Task → List TaskRecord → Tracker → Prop} {tasks : List Task}
  {records : List TaskRecord}

theorem addAll (hP : IsPreserved P) {t : Tracker} (h : P tasks records t) (more : List Task) :
    P (tasks ++ more) records (more.foldl Tracker.add t) := by
  induction more generalizing tasks t with
  | nil => simpa using h
  | cons task more ih => simpa using ih (hP.add _ _ _ task h)

/-- An event that succeeds tells its tasks and its records, and a refused one tells nothing. -/
theorem update (hP : IsPreserved P) (h : P tasks records x.tracker) (e : TrackingEvent) :
    P (tasks ++ TrackingEvent.tasks (e, (x.update e.change).1))
      (records ++ TrackingEvent.records (e, (x.update e.change).1))
      (x.update e.change).2.tracker := by
  cases e with
  | answer more =>
    simpa [Tracking.update, TrackingEvent.change, TrackingEvent.tasks, TrackingEvent.records] using
      hP.answered _ _ _ more h
  | track more =>
    cases hsealed : x.tracker.isSealed with
    | true =>
      rw [update_of_isSealed (e := .track more) hsealed (by simp)]
      simpa [TrackingEvent.tasks, TrackingEvent.records] using h
    | false =>
      simpa [Tracking.update, TrackingEvent.change, Tracker.track, hsealed, TrackingEvent.tasks,
        TrackingEvent.records] using hP.addAll h more
  | sealOff =>
    cases hsealed : x.tracker.isSealed with
    | true =>
      rw [update_of_isSealed (e := .sealOff) hsealed (by simp)]
      simpa [TrackingEvent.tasks, TrackingEvent.records] using h
    | false =>
      simpa [Tracking.update, TrackingEvent.change, Tracker.sealOff, hsealed, TrackingEvent.tasks,
        TrackingEvent.records] using hP.sealed _ _ _ h

/-- What is preserved holds after all events, of the tasks and records of those that succeeded. -/
theorem after (hP : IsPreserved P) (h : P tasks records x.tracker) (events : List TrackingEvent) :
    P (tasks ++ (x.log events).flatMap TrackingEvent.tasks)
      (records ++ (x.log events).flatMap TrackingEvent.records) (x.after events).tracker := by
  induction events generalizing x tasks records with
  | nil => simpa [Tracking.after, log] using h
  | cons e events ih => simpa [Tracking.after, log] using ih (hP.update h e)

/-- What is preserved and holds of the tracker of no task holds after all events. -/
theorem of_empty (hP : IsPreserved P) (h : P [] [] .empty) (events : List TrackingEvent) :
    P ((empty.log events).flatMap TrackingEvent.tasks)
      ((empty.log events).flatMap TrackingEvent.records) (empty.after events).tracker :=
  hP.after (x := empty) h events

end IsPreserved

theorem isPreserved_sound : IsPreserved Tracker.Sound where
  add _ _ _ task h := h.add task
  answered _ _ _ more h := h.answered more
  sealed _ _ _ h := h.of_eq rfl rfl rfl

/-- What a tracking knows comes from the events that succeeded. -/
theorem sound_after {tasks : List Task} {records : List TaskRecord}
    (h : x.tracker.Sound tasks records) (events : List TrackingEvent) :
    (x.after events).tracker.Sound (tasks ++ (x.log events).flatMap TrackingEvent.tasks)
      (records ++ (x.log events).flatMap TrackingEvent.records) :=
  isPreserved_sound.after h events

/-- Calls and answers come in any order. A tracking is sealed once at most, and after a call that
seals it every call is refused and changes nothing. Its result, there or by watching, describes the
tasks that it took. -/
theorem resolves (events : List TrackingEvent) :
    ((empty.log events).Pairwise fun a b => ¬ (a = (.sealOff, .ok ()) ∧ b = (.sealOff, .ok ()))) ∧
    (∀ before e later, events = before ++ e :: later → .sealOff ∈ before →
      (∀ records, e ≠ .answer records) →
        (empty.after before).update e.change = (.error .trackerSealed, empty.after before)) ∧
    (∀ result, (empty.after events).tracker.result? = some result →
      Tracker.Describes ((empty.log events).flatMap TrackingEvent.tasks)
        ((empty.log events).flatMap TrackingEvent.records) result) ∧
    ∀ s patience polls st history st' result,
      ((empty.after events).tracker.watch s patience polls).Runs st history (.ok (some result))
        st' →
      ∃ answers, Tracker.Polls s patience (empty.after events).tracker answers st history st' ∧
        Tracker.Describes ((empty.log events).flatMap TrackingEvent.tasks)
          ((empty.log events).flatMap TrackingEvent.records ++ answers.flatten) result := by
  have hsound := sound_after (x := empty) Tracker.Sound.empty events
  simp only [List.nil_append] at hsound
  refine ⟨sealed_once events, ?_, fun result hresult => hsound.describes hresult, ?_⟩
  · rintro before e later - hseal he
    exact update_of_isSealed (isSealed_of_mem hseal) he
  · intro s patience polls st history st' result hwatch
    obtain ⟨answers, hpolls, hresult⟩ := Tracker.polls_of_watch hwatch
    exact ⟨answers, hpolls, (hsound.answeredAll answers).describes hresult⟩

/-- A task that had ended and one that a record settles by its address. -/
theorem resolves_by_address :
    let ended : Task := ⟨"a", none, none, none, .success, none, none, none, none, []⟩
    let running : Task := ⟨"b", some "2", none, none, .running, none, none, none, none, []⟩
    let record : TaskRecord := ⟨"b", none, none, .canceled, none, none⟩
    let events : List TrackingEvent := [.track [ended, running], .sealOff, .track [ended],
      .answer [record]]
    (empty.after events).tracker.result? = some [("2", .canceled), ("a", .success)] ∧
      Tracker.Describes [ended, running] [record] [("2", .canceled), ("a", .success)] := by
  intro ended running record events
  have hresult : (empty.after events).tracker.result? =
      some [("2", .canceled), ("a", .success)] := by decide
  exact ⟨hresult, (resolves events).2.2.1 _ hresult⟩

end Tracking

end CloudDirector
