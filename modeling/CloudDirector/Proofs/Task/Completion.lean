import CloudDirector.Proofs.Task.Tracking
import CloudDirector.Proofs.Task.Watermark
import CloudDirector.Proofs.Time.Rfc3339
import Mathlib.Data.Set.Defs

/-!
# No end is missed

A server keeps the records of ended tasks and answers each poll with those that its filter admits.
The invariant is that no pending task ended before the instant from which will be asked. It holds
at first as every task starts before it ends, and a poll preserves it: what is still pending after
the poll ends later than all that was found.
-/
namespace CloudDirector
open Time

def TaskRecord.EndsAt (r : TaskRecord) (e : Instant) : Prop :=
  r.status.isTerminal = true ∧ r.endDate = some e

namespace Tracker

variable {kept : Set TaskRecord} {tasks : List Task} {found : List TaskRecord} {t : Tracker}
  {id : String} {r : TaskRecord} {e now : Instant}

/-- A filter admits the ends from the instant that it names on; without a filter all are. -/
def Admits (filter : Option String) (e : Instant) : Prop :=
  ∀ text, filter = some text → ∃ named since, text = "endDate=ge=" ++ named ∧
    Instant.ofRfc3339? named = some since ∧ since.atMost e = true

/-- What a server finds at some time: the records of tasks that ended by then and that the filter
admits, earliest end first. -/
structure Finds (kept : Set TaskRecord) (filter : Option String) (now : Instant)
    (found : List TaskRecord) : Prop where
  mem_iff : ∀ r, r ∈ found ↔ r ∈ kept ∧ ∃ e, r.EndsAt e ∧ e.atMost now = true ∧ Admits filter e
  ascending : found.Pairwise fun a b =>
    ∀ d e, a.endDate = some d → b.endDate = some e → d.atMost e = true

/-- What is written with millisecond precision admits no less than the instant itself. -/
theorem admits_endedQuery {mark : Option Instant} (hvalid : ∀ m, mark = some m → m.IsValid)
    (hle : ∀ m, mark = some m → m.atMost e = true) : Admits (endedQuery mark).filter e := by
  intro text htext
  obtain ⟨m, hm, rfl⟩ := Option.map_eq_some_iff.1 htext
  have hread := Instant.ofRfc3339_rfc3339Millis (hvalid m hm)
  have hcut := Instant.truncateToMillis_atMost m
  exact ⟨m.rfc3339Millis, m.truncateToMillis, rfl, hread, Instant.atMost_trans hcut (hle m hm)⟩

theorem isPending_iff : t.isPending id = true ↔ ∃ href, t.pending.lookup id = some href :=
  Option.isSome_iff_exists

/-- A task is pending after a record if it was pending before and the record is not about it. -/
theorem isPending_settle (h : (t.settle r).isPending id = true) :
    t.isPending id = true ∧ ¬ (r.status.isTerminal = true ∧ r.id = some id) := by
  obtain ⟨heq, hnone⟩ | ⟨key, -, hresolve, heq⟩ := t.settle_cases r
  · rw [heq] at h
    refine ⟨h, fun ⟨hterminal, hid⟩ => ?_⟩
    have hsome := hnone hterminal
    simp [resolve, hid, h] at hsome
  · rw [heq] at h
    obtain ⟨href, hlookup⟩ := isPending_iff.1 h
    obtain ⟨hne, hlookup⟩ := Keyed.lookup_erase_eq_some.1 hlookup
    have hpending : t.isPending id = true := isPending_iff.2 ⟨href, hlookup⟩
    refine ⟨hpending, fun ⟨_, hid⟩ => hne ?_⟩
    have hkey : id = key ∧ t.isPending key = true := by
      simpa [resolve, hid, hpending] using hresolve
    exact hkey.1

theorem isPending_foldl_settle (h : (found.foldl Tracker.settle t).isPending id = true) :
    t.isPending id = true ∧ ∀ r ∈ found, ¬ (r.status.isTerminal = true ∧ r.id = some id) := by
  induction found generalizing t with
  | nil => exact ⟨h, by simp⟩
  | cons r found ih =>
    obtain ⟨hsettled, hrest⟩ := ih h
    obtain ⟨hpending, hr⟩ := isPending_settle hsettled
    refine ⟨hpending, fun other hother => ?_⟩
    rcases List.mem_cons.1 hother with rfl | hother
    · exact hr
    · exact hrest other hother

theorem isPending_answered (t : Tracker) (found : List TaskRecord) (id : String) :
    (t.answered found).isPending id =
      (found.foldl Tracker.settle { t with watermark := t.watermark.settled }).isPending id := by
  obtain ⟨watermark, heq⟩ := exists_answered_eq t found
  rw [heq]
  rfl

/-- An answered poll leaves pending only what was pending and is not in the answer. -/
theorem not_mem_of_isPending (h : (t.answered found).isPending id = true) :
    t.isPending id = true ∧ ∀ r ∈ found, ¬ (r.status.isTerminal = true ∧ r.id = some id) := by
  rw [isPending_answered] at h
  obtain ⟨hpending, hfound⟩ := isPending_foldl_settle h
  exact ⟨hpending, hfound⟩

/-- A mark moves to the last end that was found. -/
theorem watermark_answered (t : Tracker) (found : List TaskRecord) :
    (t.answered found).watermark = ⟨t.watermark.earliestStart,
      t.watermark.settled.mark.map fun mark => (latestEnd found).getD mark⟩ := by
  have hfold := (settleAll_frame { t with watermark := t.watermark.settled } found).2
  unfold answered absorb
  cases latestEnd found with
  | none =>
    rw [hfold]
    simp [Watermark.settled]
  | some last =>
    simp only [hfold]
    unfold Watermark.moveTo
    cases hmark : t.watermark.settled.mark with
    | none =>
      rw [Option.isSome_none, if_neg (by decide), Option.map_none, ← hmark]
      rfl
    | some mark => rfl

/-- What is read next is the mark, as there is none only where no start is known. -/
theorem settled_mark_answered (t : Tracker) (found : List TaskRecord) :
    (t.answered found).watermark.settled.mark =
      t.watermark.settled.mark.map fun mark => (latestEnd found).getD mark := by
  rw [watermark_answered]
  unfold Watermark.settled
  cases t.watermark.mark with
  | some mark => rfl
  | none => cases t.watermark.earliestStart <;> rfl

theorem exists_mem_of_latestEnd {last : Instant} (h : latestEnd found = some last) :
    ∃ r ∈ found, r.endDate = some last :=
  List.mem_filterMap.1 (List.mem_of_getLast? h)

/-- In ascending order the last end is the latest. -/
theorem atMost_latestEnd (hascending : found.Pairwise fun a b =>
      ∀ d e, a.endDate = some d → b.endDate = some e → d.atMost e = true)
    (hr : r ∈ found) (he : r.endDate = some e) :
    ∃ last, latestEnd found = some last ∧ e.atMost last = true := by
  have hpairwise : (found.filterMap TaskRecord.endDate).Pairwise fun d e => d.atMost e = true :=
    List.Pairwise.filterMap _ (fun a b hab d hd e he => hab d e hd he) hascending
  have hmem : e ∈ found.filterMap TaskRecord.endDate := List.mem_filterMap.2 ⟨r, hr, he⟩
  cases hlast : latestEnd found with
  | none =>
    rw [List.getLast?_eq_none_iff.1 hlast] at hmem
    cases hmem
  | some last =>
    obtain ⟨front, hfront⟩ := List.getLast?_eq_some_iff.1 hlast
    rw [hfront] at hmem hpairwise
    refine ⟨last, rfl, ?_⟩
    rcases List.mem_append.1 hmem with hmem | hmem
    · exact (List.pairwise_append.1 hpairwise).2.2 e hmem last (List.mem_singleton_self _)
    · rw [List.mem_singleton.1 hmem]
      exact Instant.atMost_refl _

/-- No pending task ended before the instant from which will be asked. -/
structure Covers (kept : Set TaskRecord) (t : Tracker) : Prop where
  valid : ∀ mark, t.watermark.settled.mark = some mark → mark.IsValid
  pending : ∀ id, t.isPending id = true → ∀ r ∈ kept, r.id = some id → ∀ e, r.EndsAt e →
    ∀ mark, t.watermark.settled.mark = some mark → mark.atMost e = true

/-- What ended by the time of a poll is not pending afterwards. -/
theorem Covers.not_isPending (h : Covers kept t)
    (hfinds : Finds kept (endedQuery t.watermark.settled.mark).filter now found) (hr : r ∈ kept)
    (hid : r.id = some id) (hend : r.EndsAt e) (hnow : e.atMost now = true) :
    ¬ (t.answered found).isPending id = true := by
  intro hpending
  obtain ⟨hbefore, hothers⟩ := not_mem_of_isPending hpending
  have hadmits := admits_endedQuery h.valid (h.pending id hbefore r hr hid e hend)
  have hfound : r ∈ found := (hfinds.mem_iff r).2 ⟨hr, e, hend, hnow, hadmits⟩
  exact hothers r hfound ⟨hend.1, hid⟩

/-- A poll preserves the invariant: what is pending after it ends later than all that it found. -/
theorem Covers.answered (h : Covers kept t) (hkept : ∀ r ∈ kept, ∀ e, r.EndsAt e → e.IsValid)
    (hfinds : Finds kept (endedQuery t.watermark.settled.mark).filter now found) :
    Covers kept (t.answered found) := by
  -- An end that was found is one that a record keeps, and not later than the poll.
  have hlast {last : Instant} (hlast : latestEnd found = some last) :
      last.IsValid ∧ last.atMost now = true := by
    obtain ⟨r, hr, hdate⟩ := exists_mem_of_latestEnd hlast
    obtain ⟨hr, e, hend, hnow, -⟩ := (hfinds.mem_iff r).1 hr
    obtain rfl : last = e := Option.some.inj (hdate.symm.trans hend.2)
    exact ⟨hkept r hr last hend, hnow⟩
  refine ⟨fun mark hmark => ?_, fun id hpending r hr hid e hend mark hmark => ?_⟩
  · rw [settled_mark_answered] at hmark
    obtain ⟨old, hold, rfl⟩ := Option.map_eq_some_iff.1 hmark
    cases hfound : latestEnd found with
    | none => exact h.valid old hold
    | some last => exact (hlast hfound).1
  · rw [settled_mark_answered] at hmark
    obtain ⟨old, hold, rfl⟩ := Option.map_eq_some_iff.1 hmark
    cases hfound : latestEnd found with
    | none =>
      exact h.pending id (not_mem_of_isPending hpending).1 r hr hid e hend old hold
    | some last =>
      have hlater : now.atMost e = true := Instant.atMost_of_not fun hnow =>
        h.not_isPending hfinds hr hid hend hnow hpending
      exact Instant.atMost_trans (hlast hfound).2 hlater

theorem eq_foldl_of_track {calls : List (List Task)} {t t' : Tracker}
    (h : calls.foldlM Tracker.track t = .ok t') : t' = calls.flatten.foldl Tracker.add t := by
  induction calls generalizing t with
  | nil => exact (Except.ok.inj h).symm
  | cons call calls ih =>
    rw [List.foldlM_cons] at h
    obtain ⟨next, hnext, hrest⟩ := Result.bind_eq_ok.1 h
    unfold Tracker.track at hnext
    split at hnext
    · cases hnext
    · cases hnext
      rw [ih hrest, List.flatten_cons, List.foldl_append]

theorem tells_addAll {starts : List Instant} (h : t.watermark.Tells starts) (tasks : List Task) :
    (tasks.foldl Tracker.add t).watermark.Tells (starts ++ tasks.filterMap Task.startTime) := by
  induction tasks generalizing starts t with
  | nil => simpa using h
  | cons task tasks ih =>
    have htask := h.tellStart task.startTime
    rw [← watermark_add] at htask
    have hall := ih htask
    cases hstart : task.startTime <;> simpa [hstart, List.filterMap_cons] using hall

/-- The records of tasks and the tasks that are tracked: what was tracked as running had started
when it ended. -/
structure Chronicles (kept : Set TaskRecord) (tasks : List Task) : Prop where
  validEnds : ∀ r ∈ kept, ∀ e, r.EndsAt e → e.IsValid
  validStarts : ∀ task ∈ tasks, ∀ start, task.startTime = some start → start.IsValid
  started : ∀ task ∈ tasks, task.status.isTerminal = false → ∀ r ∈ kept, r.id = some task.urn →
    ∀ e, r.EndsAt e → ∃ start, task.startTime = some start ∧ start.atMost e = true

/-- Before the first poll no pending task ended before the earliest start. -/
theorem Chronicles.covers (h : Chronicles kept tasks) :
    Covers kept (tasks.foldl Tracker.add .empty) := by
  have hsound := Sound.empty.addAll tasks
  have htells := tells_addAll (t := .empty) .empty tasks
  rw [List.nil_append] at hsound htells
  have hmark : (tasks.foldl Tracker.add .empty).watermark.settled.mark =
      (tasks.foldl Tracker.add .empty).watermark.earliestStart := by
    simp [Watermark.settled, htells.mark]
  constructor
  · intro first hfirst
    obtain ⟨task, htask, hstart⟩ := List.mem_filterMap.1 (htells.told first (hmark ▸ hfirst))
    exact h.validStarts task htask first hstart
  · intro id hpending r hr hid e hend first hfirst
    obtain ⟨href, hlookup⟩ := isPending_iff.1 hpending
    obtain ⟨task, htask, rfl, -, hrunning⟩ := hsound.awaited id href hlookup
    obtain ⟨start, hstart, hle⟩ := h.started task htask hrunning r hr hid e hend
    obtain ⟨earliest, hearliest, hstart⟩ :=
      htells.earliest start (List.mem_filterMap.2 ⟨task, htask, hstart⟩)
    obtain rfl : earliest = first := Option.some.inj (hearliest.symm.trans (hmark ▸ hfirst))
    exact Instant.atMost_trans hstart hle

abbrev TimedPoll := Instant × List TaskRecord

def polled (t : Tracker) (polls : List TimedPoll) : Tracker :=
  polls.foldl (fun t poll => t.answered poll.2) t

/-- Polls in turn, each answered with what a server finds then under the filter that was sent. -/
inductive PollsAt (kept : Set TaskRecord) (s : Settings) (patience : Nat) :
    Tracker → List TimedPoll → AuthState → List Exchange → AuthState → Prop
  | nil {t : Tracker} {st : AuthState} : PollsAt kept s patience t [] st [] st
  | cons {t : Tracker} {now : Instant} {found : List TaskRecord} {polls : List TimedPoll}
    {st st₁ st' : AuthState} {before after : List Exchange}
    (answer : t.IsAnswer s patience found st before st₁)
    (finds : Finds kept (endedQuery t.watermark.settled.mark).filter now found)
    (rest : PollsAt kept s patience (t.answered found) polls st₁ after st') :
    PollsAt kept s patience t ((now, found) :: polls) st (before ++ after) st'

/-- A poll among others is sent with the invariant, and leaves the tracker after its answer. -/
theorem PollsAt.covers {s : Settings} {patience : Nat} {st st' : AuthState} {history : List Exchange}
    {before later : List TimedPoll} (h : Covers kept t)
    (hkept : ∀ r ∈ kept, ∀ e, r.EndsAt e → e.IsValid)
    (hpolls : PollsAt kept s patience t (before ++ (now, found) :: later) st history st') :
    Covers kept (t.polled before) ∧
      Finds kept (endedQuery (t.polled before).watermark.settled.mark).filter now found ∧
      ∃ st₁ sent st₂, ((t.polled before).poll s patience).Runs st₁ sent
        (.ok (some (t.polled (before ++ [(now, found)])))) st₂ := by
  induction before generalizing t st history with
  | nil =>
    cases hpolls with
    | cons answer finds rest =>
      exact ⟨h, finds, _, _, _, runs_poll.2 ⟨found, answer, rfl⟩⟩
  | cons poll before ih =>
    cases hpolls with
    | cons answer finds rest => exact ih (h.answered hkept finds) rest

/-- Tasks are tracked and the tracker is sealed; polls, at any times, are answered with just the
records of what ended by then under the filter that was sent, which names the mark to the
millisecond. Then a poll leaves no task pending that ended by its time, and its mark is not earlier
than an end that it found. -/
theorem no_end_missed {s : Settings} {patience : Nat} {st st' : AuthState}
    {history : List Exchange} {calls : List (List Task)} {opened left : Tracker}
    {before later : List TimedPoll} (htrack : calls.foldlM Tracker.track .empty = .ok opened)
    (hseal : opened.sealOff = .ok t) (hkept : Chronicles kept calls.flatten)
    (hpolls : PollsAt kept s patience t (before ++ (now, found) :: later) st history st')
    (hleft : left = t.polled (before ++ [(now, found)])) :
    (∃ st₁ sent st₂, ((t.polled before).poll s patience).Runs st₁ sent (.ok (some left)) st₂) ∧
    (∀ task ∈ calls.flatten, ∀ r ∈ kept, r.id = some task.urn → ∀ e, r.EndsAt e →
      e.atMost now = true → left.isPending task.urn = false) ∧
    ∀ r ∈ found, ∀ e mark, r.endDate = some e → left.watermark.mark = some mark →
      e.atMost mark = true := by
  have hcovers : Covers kept t := by
    have hall := hkept.covers
    rw [← eq_foldl_of_track htrack] at hall
    unfold sealOff at hseal
    split at hseal
    · cases hseal
    · cases hseal
      exact ⟨hall.valid, hall.pending⟩
  obtain ⟨hbefore, hfinds, hruns⟩ := hpolls.covers hcovers hkept.validEnds
  have hlast : left = (t.polled before).answered found := by
    rw [hleft]
    simp [polled]
  refine ⟨hleft ▸ hruns, fun task _ r hr hid e hend hnow => ?_, fun r hr e mark he hmark => ?_⟩
  · rw [hlast]
    simpa using hbefore.not_isPending hfinds hr hid hend hnow
  · obtain ⟨last, hlatest, hle⟩ := atMost_latestEnd hfinds.ascending hr he
    rw [hlast, watermark_answered] at hmark
    obtain ⟨old, -, rfl⟩ := Option.map_eq_some_iff.1 hmark
    rw [hlatest]
    exact hle

/-- A task that ends in the millisecond of its start is found. -/
theorem no_end_missed_within_millisecond :
    let task : Task :=
      ⟨"b", some "2", none, none, .running, some ⟨10, 500000⟩, none, none, none, []⟩
    let record : TaskRecord := ⟨"", some "2", none, .success, none, some ⟨10, 700000⟩⟩
    let tracker : Tracker := { Tracker.empty.add task with isSealed := true }
    ∃ s st history st', PollsAt {record} s 2 tracker [(⟨11, 0⟩, [record])] st history st' ∧
      tracker.isPending "2" = true ∧ (tracker.answered [record]).isPending "2" = false := by
  intro task record tracker
  let endpoint : Url :=
    ⟨"https".toList, some ⟨[], none, "vcd".toList, none⟩, .segments ["api".toList, []], none, none⟩
  let s : Settings := { Settings.ofEndpoint endpoint with requestIds := .off }
  let body := "\x7b\"record\": [\x7b\"id\": \"2\", \"status\": \"success\", " ++
    "\"endDate\": \"1970-01-01T00:00:10.0007Z\"\x7d], \"total\": 1\x7d"
  let world : World := ⟨.empty, some [(queryKey Http.Media.idRecords "task", endpoint)],
    fun _ => 0, 0, default, .scripted [.reply ⟨⟨200⟩, .empty, body⟩]⟩
  let reading := (RecordStream.unasked (endedQuery tracker.watermark.settled.mark)).all s
    TaskRecord.ofDocument 2
  have hfound : (reading.run world).1 = ([record], .ended) := by decide +kernel
  obtain ⟨history, hanswer⟩ := reading.runs_run world
  rw [hfound] at hanswer
  have hvalid : (⟨10, 700000⟩ : Instant).IsValid := ⟨by decide, by decide, by decide +kernel⟩
  have hstart : (⟨10, 500000⟩ : Instant).IsValid := ⟨by decide, by decide, by decide +kernel⟩
  have hend (e : Instant) : record.EndsAt e ↔ e = ⟨10, 700000⟩ := by
    simp [TaskRecord.EndsAt, record, TaskStatus.isTerminal, eq_comm]
  have hkept : Chronicles {record} [[task]].flatten := by
    constructor
    · rintro _ rfl e he
      exact (hend e).1 he ▸ hvalid
    · intro other hother first hfirst
      obtain rfl : other = task := by simpa using hother
      cases hfirst
      exact hstart
    · intro other hother _ r hr _ e he
      obtain rfl : other = task := by simpa using hother
      obtain rfl : r = record := hr
      exact ⟨_, rfl, (hend e).1 he ▸ rfl⟩
  have hadmits : Admits (endedQuery tracker.watermark.settled.mark).filter ⟨10, 700000⟩ :=
    admits_endedQuery (fun m hm => Option.some.inj hm ▸ hstart) fun m hm => Option.some.inj hm ▸ rfl
  have hfinds : Finds {record} (endedQuery tracker.watermark.settled.mark).filter ⟨11, 0⟩
      [record] := by
    refine ⟨fun r => ⟨fun hr => ?_, fun hr => ?_⟩, List.pairwise_singleton _ _⟩
    · obtain rfl := List.mem_singleton.1 hr
      exact ⟨rfl, _, (hend _).2 rfl, rfl, hadmits⟩
    · exact List.mem_singleton.2 hr.1
  have hpolls : PollsAt {record} s 2 tracker ([] ++ (⟨11, 0⟩, [record]) :: []) _ _ _ :=
    .cons hanswer hfinds .nil
  have htrack : [[task]].foldlM Tracker.track Tracker.empty = .ok (Tracker.empty.add task) := rfl
  obtain ⟨-, hsettled, -⟩ := no_end_missed htrack rfl hkept hpolls rfl
  exact ⟨s, _, _, _, hpolls, by decide,
    hsettled task (by simp) record rfl rfl _ ((hend _).2 rfl) rfl⟩

end Tracker

end CloudDirector
