import CloudDirector.Proofs.Task.Tracking

/-!
# Tasks at their addresses

A record without an identifier is about what was tracked last at its address. So a pending task is
found at its address just if no later snapshot of that address goes by another identifier. Else the
record settles that other task, or nothing.
-/
namespace CloudDirector

namespace Tracker

variable {t : Tracker} {tasks : List Task} {r : TaskRecord} {id href : String}

/-- By which identifier the last of some snapshots at an address goes. -/
def nameAt (tasks : List Task) (href : String) : Option String :=
  (tasks.filter fun task => task.href == href).getLast?.map Task.urn

theorem nameAt_concat (tasks : List Task) (task : Task) (href : String) :
    nameAt (tasks ++ [task]) href =
      if task.href = href then some task.urn else nameAt tasks href := by
  unfold nameAt
  by_cases h : task.href = href <;> simp [List.filter_append, h]

/-- If all snapshots at an address go by one identifier, so does the last. -/
theorem nameAt_of_unanimous (hsome : ∃ task ∈ tasks, task.href = href)
    (hall : ∀ task ∈ tasks, task.href = href → task.urn = id) : nameAt tasks href = some id := by
  obtain ⟨task, htask, hhref⟩ := hsome
  have hmem : task ∈ tasks.filter fun task => task.href == href :=
    List.mem_filter.2 ⟨htask, by simpa using hhref⟩
  have hlast := List.getLast_mem (List.ne_nil_of_mem hmem)
  obtain ⟨hlast, hthere⟩ := List.mem_filter.1 hlast
  unfold nameAt
  rw [List.getLast?_eq_some_getLast (List.ne_nil_of_mem hmem), Option.map_some]
  exact congrArg some (hall _ hlast (by simpa using hthere))

theorem lookup_idsByHref_add (t : Tracker) (task : Task) (href : String) :
    (t.add task).idsByHref.lookup href =
      if task.href = href then some task.urn else t.idsByHref.lookup href := by
  have hadd : (t.add task).idsByHref = Keyed.insert task.href task.urn t.idsByHref := by
    rw [add_eq]
    split <;> rfl
  rw [hadd]
  split
  case isTrue h =>
    rw [h]
    exact Keyed.lookup_insert_self _ _ _
  case isFalse h => exact Keyed.lookup_insert_ne (Ne.symm h) _ _

theorem idsByHref_answered (t : Tracker) (records : List TaskRecord) :
    (t.answered records).idsByHref = t.idsByHref :=
  answered_induction (P := fun u => u.idsByHref = t.idsByHref) (fun _ _ h => h) (fun _ _ _ h => h)
    rfl records

/-- A pending task is left pending by a record without an identifier just if another task, or none,
is found at the address of the record. -/
theorem isPending_settle_unnamed (hpending : t.isPending id = true) (hnone : r.id = none)
    (hterminal : r.status.isTerminal = true) :
    (t.settle r).isPending id = true ↔ t.idsByHref.lookup r.href ≠ some id := by
  have hresolve (key : String) : t.resolve r = some key ↔
      t.idsByHref.lookup r.href = some key ∧ t.isPending key = true := by
    simp [resolve, hnone, Option.filter_eq_some_iff]
  obtain ⟨heq, hunresolved⟩ | ⟨key, -, hkey, heq⟩ := t.settle_cases r
  · rw [heq]
    refine iff_of_true hpending fun hlookup => ?_
    rw [(hresolve id).2 ⟨hlookup, hpending⟩] at hunresolved
    cases hunresolved hterminal
  · rw [heq, isPending_finish, ((hresolve key).1 hkey).1]
    simp [hpending, eq_comm]

/-- A record without an identifier settles just the pending task that is found at its address. -/
theorem settle_unnamed_iff (hpending : t.isPending id = true) (hnone : r.id = none)
    (hterminal : r.status.isTerminal = true) :
    t.settle r = t.finish id r.status ↔ t.idsByHref.lookup r.href = some id := by
  constructor
  · intro hsettles
    by_contra hother
    have hstill := (isPending_settle_unnamed hpending hnone hterminal).2 hother
    rw [hsettles, isPending_finish] at hstill
    exact hstill.1 rfl
  · intro hfound
    have hresolve : t.resolve r = some id := by simp [resolve, hnone, hfound, hpending]
    unfold settle
    rw [if_pos hterminal, hresolve]
    rfl

end Tracker

namespace Tracking

/-- At every address the last snapshot there is found. -/
theorem isPreserved_nameAt : IsPreserved fun tasks _ t =>
    ∀ href, t.idsByHref.lookup href = Tracker.nameAt tasks href where
  add tasks _ t task h href := by
    rw [Tracker.lookup_idsByHref_add, Tracker.nameAt_concat, h href]
  answered _ _ t more h href := by rw [Tracker.idsByHref_answered, h href]
  sealed _ _ _ h := h

/-- After calls and answers in any order, a pending task is what a record without an identifier
settles at the address of the task just if the last snapshot tracked there goes by the identifier of
the task; else it stays pending. So it is if all snapshots at the address go by one identifier. -/
theorem settled_at_address_iff (events : List TrackingEvent) {id href : String}
    (hpending : (empty.after events).tracker.pending.lookup id = some href) :
    let t := (empty.after events).tracker
    let tasks := (empty.log events).flatMap TrackingEvent.tasks
    (t.idsByHref.lookup href = some id ↔ Tracker.nameAt tasks href = some id) ∧
    (∀ r : TaskRecord, r.id = none → r.href = href → r.status.isTerminal = true →
      (t.settle r = t.finish id r.status ↔ Tracker.nameAt tasks href = some id) ∧
      ((t.settle r).isPending id = true ↔ Tracker.nameAt tasks href ≠ some id)) ∧
    ((∀ task ∈ tasks, task.href = href → task.urn = id) →
      Tracker.nameAt tasks href = some id) := by
  intro t tasks
  have hindex : t.idsByHref.lookup href = Tracker.nameAt tasks href :=
    isPreserved_nameAt.of_empty (fun _ => rfl) events href
  have hwaiting : t.isPending id = true := Option.isSome_iff_exists.2 ⟨href, hpending⟩
  rw [← hindex]
  refine ⟨Iff.rfl, ?_, fun hall => ?_⟩
  · rintro r hnone rfl hterminal
    exact ⟨Tracker.settle_unnamed_iff hwaiting hnone hterminal,
      Tracker.isPending_settle_unnamed hwaiting hnone hterminal⟩
  · have hsound := isPreserved_sound.of_empty Tracker.Sound.empty events
    obtain ⟨task, htask, -, hhref, -⟩ := hsound.awaited id href hpending
    rw [hindex]
    exact Tracker.nameAt_of_unanimous ⟨task, htask, hhref⟩ hall

/-- A task is tracked while it runs, without an identifier, and when it has ended, with one. What
was tracked first stays pending, and a record at its address does not help. -/
theorem not_settled_at_address_of_other_identifier :
    let running : Task := ⟨"a", none, none, none, .running, none, none, none, none, []⟩
    let events : List TrackingEvent :=
      [.track [running], .track [{ running with id := some "1", status := .success }], .sealOff]
    let record : TaskRecord := ⟨"a", none, none, .success, none, none⟩
    let t := (empty.after events).tracker
    t.pending.lookup "a" = some "a" ∧ t.idsByHref.lookup "a" ≠ some "a" ∧
      t.settle record ≠ t.finish "a" record.status ∧ (t.settle record).isPending "a" = true := by
  intro running events record t
  have hpending : t.pending.lookup "a" = some "a" := by decide
  have hname : Tracker.nameAt ((empty.log events).flatMap TrackingEvent.tasks) "a" ≠ some "a" := by
    decide
  obtain ⟨hindex, hrecord, -⟩ := settled_at_address_iff events hpending
  obtain ⟨hsettles, hstill⟩ := hrecord record rfl rfl rfl
  exact ⟨hpending, mt hindex.1 hname, mt hsettles.1 hname, hstill.2 hname⟩

end Tracking

end CloudDirector
