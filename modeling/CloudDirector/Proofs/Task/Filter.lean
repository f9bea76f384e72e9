import CloudDirector.Proofs.Query.Parameters
import CloudDirector.Proofs.Task.Completion

/-!
# What polls ask for

A poll asks for the ends from a watermark on, and for all ends only as long as no start is known. A
task whose start is unknown does not change that: what it was tracked with bounds no end, but the
start of any other task sets the watermark, and the end of this one may lie before it.
-/
namespace CloudDirector
open Http Time

namespace Tracker

variable {s : Settings} {patience : Nat} {kept : Option QueryList} {t : Tracker}
  {mark : Option Instant} {f : String} {st st' : AuthState} {history : List Exchange}
  {r : Result (Option Tracker)}

/-- What the next poll asks. -/
def question (t : Tracker) : Query := endedQuery t.watermark.settled.mark

theorem filter_mem_parameters_endedQuery :
    ("filter", f) ∈ (endedQuery mark).parameters ↔ ∃ since, mark = some since ∧
      f = endedSince since := by
  cases mark <;> simp [endedQuery, Query.parameters, Query.ofType, Query.make]

def told (t : Tracker) : List TaskRecord × ReadingEnd → Result (Option Tracker)
  | (records, .ended) => .ok (some (t.answered records))
  | (_, .failed e) => .error e
  | _ => .ok none

/-- A poll of a client that keeps `kept`. Its question is asked where it is found, with its own
parameters, and then all pages of the answer are read. If it cannot be found, or the first page
cannot be had, the poll fails and asks for nothing else. -/
inductive PollsOnce (s : Settings) (patience : Nat) (kept : Option QueryList) (t : Tracker)
    (st : AuthState) : List Exchange → Result (Option Tracker) → AuthState → Prop
  | unfound {history : List Exchange} {fault : Error} {st' : AuthState}
    (looked : (t.question.baseUrl s).RunsKeeping kept st history (.error fault) st') :
    PollsOnce s patience kept t st history (.error fault) st'
  | refused {found fetched : List Exchange} {root : Url} {fault : Error} {u st' : AuthState}
    (finds : t.question.Finds s st kept found root u)
    (asks : AsksAt s TaskRecord.ofDocument .idRecords root t.question.parameters u fetched
      (.error fault) st') : PollsOnce s patience kept t st (found ++ fetched) (.error fault) st'
  | answered {found fetched rest : List Exchange} {root : Url} {pages : PageIterator TaskRecord}
    {answer : List TaskRecord × ReadingEnd} {u v st' : AuthState}
    (finds : t.question.Finds s st kept found root u)
    (asks : AsksAt s TaskRecord.ofDocument .idRecords root t.question.parameters u fetched
      (.ok pages) v)
    (reads : (pages.allRecords s TaskRecord.ofDocument patience).Runs v rest answer st') :
    PollsOnce s patience kept t st (found ++ fetched ++ rest) (t.told answer) st'

/-- All records of the answer to a query. -/
def readAll (s : Settings) (patience : Nat) :
    Result (PageIterator TaskRecord) → Program (List TaskRecord × ReadingEnd)
  | .error e => pure ([], .failed e)
  | .ok pages => pages.allRecords s TaskRecord.ofDocument patience

theorem run_poll : (t.poll s patience).run =
    (t.question.execute s TaskRecord.ofDocument).run >>= fun x =>
      readAll s patience x >>= fun answer => pure (t.told answer) := by
  have hall : (RecordStream.unasked t.question).all s TaskRecord.ofDocument patience =
      (t.question.execute s TaskRecord.ofDocument).run >>= readAll s patience := by
    refine congrArg (Program.bind _) (funext fun x => ?_)
    cases x <;> rfl
  rw [← bind_assoc, ← hall]
  unfold poll
  refine (ExceptT.run_bind_lift _ _).trans (bind_congr fun answer => ?_)
  obtain ⟨records, ending⟩ := answer
  cases ending <;> rfl

theorem pollsOnce_of_poll (hendpoint : s.endpoint.IsRead)
    (hkept : ∀ list, kept = some list → QueryList.IsRead list)
    (h : (t.poll s patience).RunsKeeping kept st history r st') :
    PollsOnce s patience kept t st history r st' := by
  obtain ⟨asked, x, u, rest, hexecute, hrest, rfl⟩ := h.of_run_bind run_poll
  obtain ⟨before, answer, v, after, hall, hend, rfl⟩ := Program.runs_bind.1 hrest
  obtain ⟨rfl, rfl, rfl⟩ := hend
  rw [List.append_nil]
  obtain ⟨fault, hbase, rfl⟩ | ⟨found, root, w, fetched, y, rfl, hfinds, hcall, rfl⟩ :=
    Query.runsKeeping_execute hexecute
  · obtain ⟨rfl, rfl, rfl⟩ := hall
    rw [List.append_nil]
    exact .unfound hbase
  · have hasks := hcall.asksAt (hfinds.isRead hendpoint hkept).isShown
    cases y with
    | error fault =>
      obtain ⟨rfl, rfl, rfl⟩ := hall
      rw [List.append_nil]
      exact .refused hfinds hasks
    | ok first => exact .answered hfinds hasks hall

end Tracker

namespace Tracking

/-- The watermark is made of the starts of snapshots and of the ends that polls found. -/
theorem isPreserved_isMadeOf : IsPreserved fun tasks records t => t.watermark.IsMadeOf
    (tasks.filterMap Task.startTime) (records.filterMap TaskRecord.endDate) where
  add tasks records t task h := by
    have hstart : (tasks ++ [task]).filterMap Task.startTime =
        tasks.filterMap Task.startTime ++ task.startTime.toList := by
      cases hstart : task.startTime <;> simp [hstart]
    rw [Tracker.watermark_add, hstart]
    exact h.tellStart task.startTime
  answered tasks records t more h := by
    rw [Tracker.watermark_answered, List.filterMap_append]
    refine ⟨h.told, fun mark hmark => ?_⟩
    obtain ⟨old, hold, rfl⟩ := Option.map_eq_some_iff.1 hmark
    obtain ⟨hknown, hstart⟩ := h.settled.marked old hold
    refine ⟨hknown, ?_⟩
    cases hlast : Tracker.latestEnd more with
    | none => exact hstart.imp_right (List.mem_append_left _)
    | some last => exact .inr (List.mem_append_right _ (List.mem_of_getLast? hlast))
  sealed _ _ _ h := h

/-- After calls and answers in any order, a poll asks its question, and this asks for all ends just
if no snapshot that was tracked carries a start. Else it asks, whatever is pending, only for the ends
from the earliest of these starts on, or from an end on that a poll has found. -/
theorem asks_for_all_iff (events : List TrackingEvent) :
    let t := (empty.after events).tracker
    let tasks := (empty.log events).flatMap TrackingEvent.tasks
    let starts := tasks.filterMap Task.startTime
    let records := (empty.log events).flatMap TrackingEvent.records
    (∀ s kept, s.endpoint.IsRead → (∀ list, kept = some list → QueryList.IsRead list) →
      ∀ patience st history r st', (t.poll s patience).RunsKeeping kept st history r st' →
        t.PollsOnce s patience kept st history r st') ∧
    ((∀ f, ("filter", f) ∉ t.question.parameters) ↔ ∀ task ∈ tasks, task.startTime = none) ∧
    ∀ f, ("filter", f) ∈ t.question.parameters → ∃ since, f = Tracker.endedSince since ∧
      ((since ∈ starts ∧ ∀ start ∈ starts, since.atMost start = true) ∨
        ∃ r ∈ records, r.endDate = some since) := by
  intro t tasks starts records
  have hmade : t.watermark.IsMadeOf starts (records.filterMap TaskRecord.endDate) :=
    isPreserved_isMadeOf.of_empty .empty events
  refine ⟨fun s kept hendpoint hkept _ _ _ _ _ => Tracker.pollsOnce_of_poll hendpoint hkept,
    ?_, ?_⟩
  · have hfilter : (∀ f, ("filter", f) ∉ t.question.parameters) ↔
        t.watermark.settled.mark = none := by
      simp only [Tracker.question, Tracker.filter_mem_parameters_endedQuery]
      cases t.watermark.settled.mark <;> simp
    rw [hfilter, hmade.settled_mark_eq_none]
    exact List.filterMap_eq_nil_iff
  · intro f hf
    obtain ⟨since, hsince, rfl⟩ := Tracker.filter_mem_parameters_endedQuery.1 hf
    exact ⟨since, rfl, (hmade.of_settled_mark hsince).imp_right List.mem_filterMap.1⟩

/-- A task without a start is pending beside one that has started, and the poll leaves ends out. -/
theorem exists_poll_beside_started : ∃ (events : List TrackingEvent) (queued running : Task)
    (s : Settings) (list : QueryList) (history : List Exchange) (r : Result (Option Tracker))
    (st' : AuthState) (e : Exchange),
      (empty.log events).flatMap TrackingEvent.tasks = [queued, running] ∧
      queued.status.isTerminal = false ∧ queued.startTime = none ∧
      (empty.after events).tracker.isPending queued.urn = true ∧
      running.startTime = some ⟨10, 0⟩ ∧ s.endpoint.IsRead ∧ QueryList.IsRead list ∧
      ((empty.after events).tracker.poll s 2).RunsKeeping (some list) .empty history r st' ∧
      r.isOk = true ∧ e ∈ history ∧ e.request.method = .get ∧
      e.request.url.text = "https://vcd/query?type=task&page=1" ++
        "&filter=endDate%3Dge%3D1970-01-01T00%3A00%3A10.000Z&sortAsc=endDate&links=true" ∧
      ("filter", Tracker.endedSince ⟨10, 0⟩) ∈ e.request.url.queryPairs := by
  let queued : Task := ⟨"a", some "1", none, none, .preRunning, none, none, none, none, []⟩
  let running : Task := ⟨"b", some "2", none, none, .running, some ⟨10, 0⟩, none, none, none, []⟩
  let events : List TrackingEvent := [.track [queued, running], .sealOff]
  let host : Url.Authority := ⟨[], none, "vcd".toList, none⟩
  let endpoint : Url := ⟨"https".toList, some host, .segments ["api".toList, []], none, none⟩
  let s : Settings := { Settings.ofEndpoint endpoint with requestIds := .off }
  let address : Url :=
    ⟨"https".toList, some host, .segments ["query".toList], some "type=task".toList, none⟩
  let list : QueryList := [(queryKey Media.idRecords "task", address)]
  let page : Page String := ⟨none, none, none, 0, 0, 0, [], []⟩
  let w : World := ⟨.empty, some list, fun _ => 0, 0, default,
    .scripted [.reply ⟨.ok, .empty, (page.toJson .string).text⟩]⟩
  have hendpoint : s.endpoint.IsRead :=
    .text (show Url.ofText "https://vcd/api/" = .ok endpoint by decide +kernel)
  have hlist : QueryList.IsRead list := List.forall_mem_singleton.2
    (.text (show Url.ofText "https://vcd/query?type=task" = .ok address by decide +kernel))
  let poll := (empty.after events).tracker.poll s 2
  have hasked : (poll.runIn w).1.isOk = true ∧ ∃ e ∈ Program.exchanges poll.run w,
      e.request.method = .get ∧
      e.request.url.text = "https://vcd/query?type=task&page=1" ++
        "&filter=endDate%3Dge%3D1970-01-01T00%3A00%3A10.000Z&sortAsc=endDate&links=true" ∧
      ("filter", Tracker.endedSince ⟨10, 0⟩) ∈ e.request.url.queryPairs := by
    decide +kernel
  obtain ⟨hok, e, he, hget, htext, hfilter⟩ := hasked
  exact ⟨events, queued, running, s, list, _, _, _, e, rfl, rfl, rfl, by decide, rfl, hendpoint,
    hlist, Action.runsKeeping_exchanges poll w, hok, he, hget, htext, hfilter⟩

/-- A task without a start is pending, and what the poll asks for leaves ends out. -/
theorem asks_not_for_all_beside_started : ∃ (events : List TrackingEvent) (s : Settings)
    (list : QueryList) (history : List Exchange) (r : Result (Option Tracker)) (st' : AuthState)
    (e : Exchange),
      let t := (empty.after events).tracker
      let tasks := (empty.log events).flatMap TrackingEvent.tasks
      (∃ queued ∈ tasks, queued.startTime = none ∧ t.isPending queued.urn = true) ∧
      s.endpoint.IsRead ∧ QueryList.IsRead list ∧
      t.PollsOnce s 2 (some list) .empty history r st' ∧ r.isOk = true ∧
      ¬ (∀ f, ("filter", f) ∉ t.question.parameters) ∧ e ∈ history ∧ e.request.method = .get ∧
      ("filter", Tracker.endedSince ⟨10, 0⟩) ∈ e.request.url.queryPairs := by
  obtain ⟨events, queued, running, s, list, history, r, st', e, htasks, -, hstart, hpending,
    hrunning, hendpoint, hlist, hpoll, hok, he, hget, -, hfilter⟩ := exists_poll_beside_started
  obtain ⟨hpolls, hall, -⟩ := asks_for_all_iff events
  refine ⟨events, s, list, history, r, st', e,
    ⟨queued, by rw [htasks]; exact List.mem_cons_self, hstart, hpending⟩, hendpoint, hlist,
    hpolls s (some list) hendpoint (fun _ h => Option.some.inj h ▸ hlist) 2 _ _ _ _ hpoll, hok,
    fun h => ?_, he, hget, hfilter⟩
  have hnone := hall.1 h running (by rw [htasks]; exact List.mem_cons_of_mem _ List.mem_cons_self)
  cases hrunning.symm.trans hnone

/-- Polls do not ask for all ends as long as a task is pending whose start is unknown. -/
theorem not_asks_for_all_while_unstarted :
    ¬ ∀ (events : List TrackingEvent) (task : Task),
      task ∈ (empty.log events).flatMap TrackingEvent.tasks → task.status.isTerminal = false →
      task.startTime = none → (empty.after events).tracker.isPending task.urn = true →
      ∀ s patience kept st history r st',
        ((empty.after events).tracker.poll s patience).RunsKeeping kept st history r st' →
        ∀ e ∈ history, ∀ since,
          ("filter", Tracker.endedSince since) ∉ e.request.url.queryPairs := by
  intro hunfiltered
  obtain ⟨events, queued, running, s, list, history, r, st', e, htasks, hstatus, hstart, hpending,
    -, -, -, hpoll, -, he, -, -, hfilter⟩ := exists_poll_beside_started
  exact hunfiltered events queued (by rw [htasks]; exact List.mem_cons_self) hstatus hstart hpending
    s 2 _ _ history r st' hpoll e he _ hfilter

end Tracking

end CloudDirector
