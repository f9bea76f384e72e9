import CloudDirector.Proofs.Keyed
import CloudDirector.Task.Tracker

/-!
# What trackers know

A tracker knows each tracked task, as pending or as ended, and nothing else. Each end that it knows
was seen in a tracked snapshot or in a record about the task. Tracking a snapshot and settling a
record both preserve this.
-/
namespace CloudDirector.Tracker

variable {tasks : List Task} {records : List TaskRecord} {t : Tracker} {id : String}
  {status : TaskStatus}

/-- A task is known, as pending or as ended. -/
def Knows (t : Tracker) (id : String) : Prop :=
  (∃ href, t.pending.lookup id = some href) ∨ ∃ status, t.finished.lookup id = some status

def finish (t : Tracker) (id : String) (status : TaskStatus) : Tracker :=
  { t with
    pending := Keyed.erase id t.pending
    finished := Keyed.insert id status t.finished }

def await (t : Tracker) (id href : String) : Tracker :=
  { t with pending := Keyed.insert id href t.pending }

def locate (t : Tracker) (task : Task) : Tracker :=
  { t with
    idsByHref := Keyed.insert task.href task.urn t.idsByHref
    watermark := t.watermark.tellStart task.startTime }

theorem add_eq (t : Tracker) (task : Task) : t.add task =
    if task.status.isTerminal then (t.locate task).finish task.urn task.status
    else (t.locate task).await task.urn task.href := rfl

theorem watermark_add (t : Tracker) (task : Task) :
    (t.add task).watermark = t.watermark.tellStart task.startTime := by
  rw [add_eq]
  split <;> rfl

theorem knows_finish {key : String} : (t.finish key status).Knows id ↔ id = key ∨ t.Knows id := by
  unfold Knows finish
  simp only [Keyed.lookup_insert_eq_some, Keyed.lookup_erase_eq_some]
  by_cases hid : id = key <;> simp [hid]

theorem knows_await {key href : String} : (t.await key href).Knows id ↔ id = key ∨ t.Knows id := by
  unfold Knows await
  simp only [Keyed.lookup_insert_eq_some]
  by_cases hid : id = key <;> simp [hid]

@[simp] theorem isPending_finish {key : String} :
    (t.finish key status).isPending id = true ↔ id ≠ key ∧ t.isPending id = true := by
  unfold isPending finish
  rw [Keyed.contains_erase]

/-- All that a record can do: it finishes the pending task that it is about, or nothing. -/
theorem settle_cases (t : Tracker) (r : TaskRecord) :
    (t.settle r = t ∧ (r.status.isTerminal = true → t.resolve r = none)) ∨
      ∃ id, r.status.isTerminal = true ∧ t.resolve r = some id ∧
        t.settle r = t.finish id r.status := by
  unfold settle
  cases hterminal : r.status.isTerminal with
  | false => exact .inl ⟨rfl, nofun⟩
  | true =>
    cases hresolve : t.resolve r with
    | none => exact .inl ⟨rfl, fun _ => rfl⟩
    | some id => exact .inr ⟨id, rfl, rfl, rfl⟩

/-- What stays true when a task is finished stays true when records are taken in. -/
theorem settleAll_induction {P : Tracker → Prop}
    (hfinish : ∀ t id status, P t → P (t.finish id status)) (h : P t) (records : List TaskRecord) :
    P (records.foldl settle t) := by
  induction records generalizing t with
  | nil => exact h
  | cons r records ih =>
    refine ih ?_
    obtain ⟨heq, -⟩ | ⟨id, -, -, heq⟩ := t.settle_cases r
    · rwa [heq]
    · rw [heq]
      exact hfinish t id r.status h

theorem settleAll_frame (t : Tracker) (records : List TaskRecord) :
    (records.foldl settle t).isSealed = t.isSealed ∧
      (records.foldl settle t).watermark = t.watermark :=
  settleAll_induction (P := fun u => u.isSealed = t.isSealed ∧ u.watermark = t.watermark)
    (fun _ _ _ h => h) ⟨rfl, rfl⟩ records

/-- A task ended with a status by the word of a tracked snapshot, or by that of a record which
names the task by its identifier or by the address of a tracked snapshot. -/
def Justified (tasks : List Task) (records : List TaskRecord) (id : String)
    (status : TaskStatus) : Prop :=
  status.isTerminal = true ∧
    ((∃ task ∈ tasks, task.urn = id ∧ task.status = status) ∨
      ∃ r ∈ records, r.status = status ∧
        (r.id = some id ∨ ∃ task ∈ tasks, task.urn = id ∧ task.href = r.href))

theorem Justified.mono {tasks' : List Task} {records' : List TaskRecord}
    (h : Justified tasks records id status) (htasks : tasks ⊆ tasks')
    (hrecords : records ⊆ records') : Justified tasks' records' id status := by
  obtain ⟨hterminal, ⟨task, htask, hurn⟩ | ⟨r, hr, hstatus, hid⟩⟩ := h
  · exact ⟨hterminal, .inl ⟨task, htasks htask, hurn⟩⟩
  · refine ⟨hterminal, .inr ⟨r, hrecords hr, hstatus, ?_⟩⟩
    rcases hid with hid | ⟨task, htask, hurn⟩
    · exact .inl hid
    · exact .inr ⟨task, htasks htask, hurn⟩

/-- What a tracker knows after it was told of tasks and of records. -/
structure Sound (tasks : List Task) (records : List TaskRecord) (t : Tracker) : Prop where
  pendingOrder : Keyed.Ascending t.pending
  finishedOrder : Keyed.Ascending t.finished
  known : ∀ id, t.Knows id ↔ ∃ task ∈ tasks, task.urn = id
  awaited : ∀ id href, t.pending.lookup id = some href →
    ∃ task ∈ tasks, task.urn = id ∧ task.href = href ∧ task.status.isTerminal = false
  addresses : ∀ href id, t.idsByHref.lookup href = some id →
    ∃ task ∈ tasks, task.urn = id ∧ task.href = href
  justified : ∀ id status, t.finished.lookup id = some status →
    Justified tasks records id status

namespace Sound

theorem empty : Sound [] [] empty where
  pendingOrder := .nil
  finishedOrder := .nil
  known id := by simp [Knows, Tracker.empty]
  awaited id href h := by simp [Tracker.empty] at h
  addresses href id h := by simp [Tracker.empty] at h
  justified id status h := by simp [Tracker.empty] at h

/-- What a tracker knows of tasks does not depend on its seal or its watermark. -/
theorem of_eq {t' : Tracker} (h : Sound tasks records t) (hpending : t'.pending = t.pending)
    (hfinished : t'.finished = t.finished) (hids : t'.idsByHref = t.idsByHref) :
    Sound tasks records t' := by
  cases t
  cases t'
  cases hpending
  cases hfinished
  cases hids
  exact ⟨h.pendingOrder, h.finishedOrder, h.known, h.awaited, h.addresses, h.justified⟩

private theorem addresses_locate (h : Sound tasks records t) (task : Task) (href id : String)
    (hlookup : (t.locate task).idsByHref.lookup href = some id) :
    ∃ task' ∈ tasks ++ [task], task'.urn = id ∧ task'.href = href := by
  rcases Keyed.lookup_insert_eq_some.1 hlookup with ⟨rfl, rfl⟩ | ⟨-, hold⟩
  · exact ⟨task, by simp, rfl, rfl⟩
  · obtain ⟨task', htask', hurn⟩ := h.addresses href id hold
    exact ⟨task', List.mem_append_left _ htask', hurn⟩

private theorem exists_urn_append {task : Task} :
    (∃ task' ∈ tasks ++ [task], task'.urn = id) ↔
      id = task.urn ∨ ∃ task' ∈ tasks, task'.urn = id := by
  simp [or_and_right, exists_or, or_comm, eq_comm]

/-- One more snapshot is known, as ended or as pending. -/
theorem add (h : Sound tasks records t) (task : Task) :
    Sound (tasks ++ [task]) records (t.add task) := by
  have hknown (id : String) : (t.locate task).Knows id ↔ ∃ task ∈ tasks, task.urn = id := h.known id
  have hjustified (id : String) (status : TaskStatus) (hold : t.finished.lookup id = some status) :
      Justified (tasks ++ [task]) records id status :=
    (h.justified id status hold).mono (List.subset_append_left _ _) (List.Subset.refl _)
  have hawaited (id href : String) (hold : t.pending.lookup id = some href) :
      ∃ task' ∈ tasks ++ [task],
        task'.urn = id ∧ task'.href = href ∧ task'.status.isTerminal = false := by
    obtain ⟨task', htask', hurn⟩ := h.awaited id href hold
    exact ⟨task', List.mem_append_left _ htask', hurn⟩
  rw [add_eq]
  split
  case isTrue hterminal =>
    refine ⟨h.pendingOrder.erase _, h.finishedOrder.insert _ _, fun id => ?_,
      fun id href hlookup => ?_, h.addresses_locate task, fun id status hlookup => ?_⟩
    · rw [knows_finish, hknown, exists_urn_append]
    · exact hawaited id href (Keyed.lookup_erase_eq_some.1 hlookup).2
    · rcases Keyed.lookup_insert_eq_some.1 hlookup with ⟨rfl, rfl⟩ | ⟨-, hold⟩
      · exact ⟨hterminal, .inl ⟨task, by simp, rfl, rfl⟩⟩
      · exact hjustified id status hold
  case isFalse hpending =>
    refine ⟨h.pendingOrder.insert _ _, h.finishedOrder, fun id => ?_, fun id href hlookup => ?_,
      h.addresses_locate task, hjustified⟩
    · rw [knows_await, hknown, exists_urn_append]
    · rcases Keyed.lookup_insert_eq_some.1 hlookup with ⟨rfl, rfl⟩ | ⟨-, hold⟩
      · exact ⟨task, by simp, rfl, rfl, by simpa using hpending⟩
      · exact hawaited id href hold

/-- A record that is resolved is about a pending task, which it names. -/
theorem of_resolve (h : Sound tasks records t) {r : TaskRecord}
    (hresolve : t.resolve r = some id) : (∃ href, t.pending.lookup id = some href) ∧
      (r.id = some id ∨ ∃ task ∈ tasks, task.urn = id ∧ task.href = r.href) := by
  obtain ⟨hnamed, hpending⟩ := Option.filter_eq_some_iff.1 hresolve
  refine ⟨Option.isSome_iff_exists.1 hpending, ?_⟩
  rcases Option.or_eq_some_iff.1 hnamed with hid | ⟨-, hhref⟩
  · exact .inl (Option.filter_eq_some_iff.1 hid).1
  · exact .inr (h.addresses r.href id hhref)

/-- A record settles what it is about, or nothing. -/
theorem settle (h : Sound tasks records t) (r : TaskRecord) :
    Sound tasks (records ++ [r]) (t.settle r) := by
  have hjustified (id : String) (status : TaskStatus) (hold : t.finished.lookup id = some status) :
      Justified tasks (records ++ [r]) id status :=
    (h.justified id status hold).mono (List.Subset.refl _) (List.subset_append_left _ _)
  have hsame : Sound tasks (records ++ [r]) t :=
    ⟨h.pendingOrder, h.finishedOrder, h.known, h.awaited, h.addresses, hjustified⟩
  obtain ⟨heq, -⟩ | ⟨key, hterminal, hresolve, heq⟩ := t.settle_cases r
  · rw [heq]
    exact hsame
  · obtain ⟨hpending, hnamed⟩ := h.of_resolve hresolve
    rw [heq]
    refine ⟨h.pendingOrder.erase _, h.finishedOrder.insert _ _, fun id => ?_,
      fun id href hlookup => ?_, h.addresses, fun id status hlookup => ?_⟩
    · rw [knows_finish, ← h.known id]
      constructor
      · rintro (rfl | hknown)
        · exact .inl hpending
        · exact hknown
      · exact .inr
    · exact h.awaited id href (Keyed.lookup_erase_eq_some.1 hlookup).2
    · rcases Keyed.lookup_insert_eq_some.1 hlookup with ⟨rfl, rfl⟩ | ⟨-, hold⟩
      · exact ⟨hterminal, .inr ⟨r, by simp, rfl, hnamed⟩⟩
      · exact hjustified id status hold

theorem addAll (h : Sound tasks records t) (more : List Task) :
    Sound (tasks ++ more) records (more.foldl Tracker.add t) := by
  induction more generalizing tasks t with
  | nil => simpa using h
  | cons task more ih => simpa using ih (h.add task)

theorem settleAll (h : Sound tasks records t) (more : List TaskRecord) :
    Sound tasks (records ++ more) (more.foldl Tracker.settle t) := by
  induction more generalizing records t with
  | nil => simpa using h
  | cons r more ih => simpa using ih (h.settle r)

theorem absorb (h : Sound tasks records t) (more : List TaskRecord) :
    Sound tasks (records ++ more) (t.absorb more) := by
  unfold Tracker.absorb
  cases latestEnd more with
  | none => exact h.settleAll more
  | some last => exact (h.settleAll more).of_eq rfl rfl rfl

end Sound

/-- A result names each tracked task once, with a justified end. -/
structure Describes (tasks : List Task) (records : List TaskRecord)
    (result : List (String × TaskStatus)) : Prop where
  once : (result.map Prod.fst).Nodup
  keys : ∀ id, id ∈ result.map Prod.fst ↔ ∃ task ∈ tasks, task.urn = id
  justified : ∀ id status, (id, status) ∈ result → Justified tasks records id status

theorem Sound.describes (h : Sound tasks records t) {result : List (String × TaskStatus)}
    (hresult : t.result? = some result) : Describes tasks records result := by
  unfold result? at hresult
  split at hresult
  case isFalse => cases hresult
  case isTrue hpending =>
    cases hresult
    refine ⟨h.finishedOrder.nodup, fun id => ?_, fun id status hmem => ?_⟩
    · have hnone : ¬ ∃ href, t.pending.lookup id = some href := by simp [hpending]
      rw [← h.known id, Knows, or_iff_right hnone]
      constructor
      · intro hmem
        obtain ⟨⟨_, status⟩, hentry, rfl⟩ := List.mem_map.1 hmem
        exact ⟨status, h.finishedOrder.mem_iff.1 hentry⟩
      · rintro ⟨status, hlookup⟩
        exact List.mem_map.2 ⟨_, h.finishedOrder.mem_iff.2 hlookup, rfl⟩
    · exact h.justified id status (h.finishedOrder.mem_iff.1 hmem)

end CloudDirector.Tracker
