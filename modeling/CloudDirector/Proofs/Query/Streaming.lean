import CloudDirector.Proofs.Query.Pages
import CloudDirector.Query.Records

/-!
# Streams along a chain of pages

Who reads a stream pulls one record after the other. What happens meanwhile are events: a page is
asked for, by its address or by the link of the page before it, and an answer is given. On a chain
of pages every page is asked for once, when all records before it have been given. A page that
cannot be had is told of once, and after that, as after the last record, nothing is asked for.
-/
namespace CloudDirector
open Http Json

variable {α : Type} {s : Settings} {item : Decoder α} {q : Query} {patience n : Nat}

/-- A pull on a stream: the context in which it was made, what it exchanged, what the stream gave,
and the context that it left. -/
structure Pull (α : Type) where
  state : AuthState
  history : List Exchange
  answer : Pulled α
  left : AuthState

def Pull.atEnd (st : AuthState) : Pull α := ⟨st, [], .ended, st⟩

/-- A pull that is to be made in a context and against a server. -/
structure PullTurn where
  state : AuthState
  server : List Exchange → Request → Outcome

structure Pull.Makes (v : Pull α) (turn : PullTurn) : Prop where
  state : v.state = turn.state
  answered : AnsweredBy turn.server v.history

/-- Pulls on a stream one after the other. -/
inductive RecordStream.Pulls (s : Settings) (item : Decoder α) (patience : Nat) :
    RecordStream α → List (Pull α) → Prop
  | rest (stream : RecordStream α) : Pulls s item patience stream []
  | pull {stream after : RecordStream α} {st st' : AuthState} {history : List Exchange}
    {x : Pulled α} {pulls : List (Pull α)}
    (runs : (stream.pull s item patience).Runs st history (x, after) st')
    (more : Pulls s item patience after pulls) :
    Pulls s item patience stream (⟨st, history, x, st'⟩ :: pulls)

namespace RecordStream

/-- A stream can be pulled as often as one likes, each time in a context and against a server of
its own. -/
theorem exists_pulls (stream : RecordStream α) (s : Settings) (item : Decoder α) (patience : Nat)
    (turns : List PullTurn) : ∃ pulls,
      Pulls s item patience stream pulls ∧ List.Forall₂ Pull.Makes pulls turns := by
  induction turns generalizing stream with
  | nil => exact ⟨[], .rest stream, .nil⟩
  | cons turn turns ih =>
    obtain ⟨history, ⟨x, after⟩, st', hruns, hserver⟩ :=
      (stream.pull s item patience).exists_runs turn.state turn.server
    obtain ⟨pulls, hpulls, hmakes⟩ := ih after
    exact ⟨⟨turn.state, history, x, st'⟩ :: pulls, .pull hruns hpulls,
      .cons ⟨rfl, hserver⟩ hmakes⟩

def pullsIn (s : Settings) (item : Decoder α) (patience : Nat) :
    RecordStream α → Nat → World → List (Pull α)
  | _, 0, _ => []
  | stream, n + 1, w =>
    let pulled := (stream.pull s item patience).run w
    ⟨w.auth, (stream.pull s item patience).exchanges w, pulled.1.1, pulled.2.auth⟩ ::
      pulled.1.2.pullsIn s item patience n pulled.2

theorem pulls_pullsIn (stream : RecordStream α) (w : World) :
    Pulls s item patience stream (stream.pullsIn s item patience n w) := by
  induction n generalizing stream w with
  | zero => exact .rest stream
  | succ n ih => exact .pull (Program.runs_exchanges _ w) (ih _ _)

/-- After its end a stream asks for nothing. -/
theorem Pulls.of_ended {pulls : List (Pull α)} (h : Pulls s item patience .ended pulls) :
    ∃ states : List AuthState, pulls = states.map Pull.atEnd := by
  generalize hstream : RecordStream.ended = stream at h
  induction h with
  | rest => exact ⟨[], rfl⟩
  | @pull _ after st st' history x pulls runs more ih =>
    subst hstream
    obtain ⟨rfl, hanswer, rfl⟩ := runs
    cases hanswer
    obtain ⟨states, rfl⟩ := ih rfl
    exact ⟨st' :: states, rfl⟩

end RecordStream

def Page.nextLinks (p : Page α) : List Link := matchingLinks p "nextPage" p.mediaType

/-- What is exchanged to ask for the page after the last one, and what comes of it. The first page
is asked for at the address of the query, every other one where the only link to it leads, each by
one call in the state of the context that is found. -/
inductive Query.Asks (s : Settings) (item : Decoder α) (q : Query) (st : AuthState) :
    Option (Page α) → List Exchange → Result (Page α) → AuthState → Prop
  | unfound {history : List Exchange} {fault : Error} {st' : AuthState}
    (looked : (q.address s).Runs st history (.error fault) st') :
    Asks s item q st none history (.error fault) st'
  | opened {opening history : List Exchange} {address : Url} {x : Result (Response (Page α))}
    {r : Result (Page α)} {t st' : AuthState}
    (looked : (q.address s).Runs st opening (.ok address) t)
    (call : CallsOnce s (Page.ofDocument item) address.text (some q.format.mediaType) t history x
      st') (answer : r = x.map Response.data) : Asks s item q st none (opening ++ history) r st'
  | followed {history : List Exchange} {last : Page α} {l : Link} {x : Result (Response (Page α))}
    {r : Result (Page α)} {st' : AuthState} (only : last.nextLinks = [l])
    (call : CallsOnce s (Page.ofDocument item) l.href (some q.format.mediaType) st history x st')
    (answer : r = x.map Response.data) : Asks s item q st (some last) history r st'
  | unclear {last : Page α} {l l' : Link} {more : List Link}
    (many : last.nextLinks = l :: l' :: more) :
    Asks s item q st (some last) []
      (.error (.multipleLinks (wantedLink last "nextPage" last.mediaType))) st

theorem Query.Asks.linked {last : Page α} {st st' : AuthState} {history : List Exchange}
    {r : Result (Page α)} (h : q.Asks s item st (some last) history r st') :
    last.nextLinks ≠ [] := by
  intro hnone
  cases h with
  | followed only => cases hnone.symm.trans only
  | unclear many => cases hnone.symm.trans many

/-- What happens on a stream. -/
inductive StreamEvent (α : Type) where
  /-- A page is asked for, and read or not. -/
  | asks (r : Result (Page α))
  | gives (x : Pulled α)

namespace StreamEvent

def page? : StreamEvent α → Option (Page α)
  | asks (.ok p) => some p
  | _ => none

def pages (events : List (StreamEvent α)) : List (Page α) := events.filterMap page?

theorem pages_asks_ok (p : Page α) (events : List (StreamEvent α)) :
    pages (asks (.ok p) :: events) = p :: pages events := rfl

theorem pages_asks_error (e : Error) (events : List (StreamEvent α)) :
    pages (asks (.error e) :: events) = pages events := rfl

theorem pages_gives (x : Pulled α) (events : List (StreamEvent α)) :
    pages (gives x :: events) = pages events := rfl

/-- Events happen in pulls, after a last page that was read: a pull asks for any number of pages
after that one, each in the state that the one before it left, and then gives its answer. -/
inductive Happen (s : Settings) (item : Decoder α) (q : Query) :
    Option (Page α) → List (StreamEvent α) → List (Pull α) → Prop
  | rest (last : Option (Page α)) : Happen s item q last [] []
  | asks {last : Option (Page α)} {r : Result (Page α)} {asked history : List Exchange}
    {x : Pulled α} {st t st' : AuthState} {events : List (StreamEvent α)} {pulls : List (Pull α)}
    (asks : q.Asks s item st last asked r t)
    (more : Happen s item q (r.toOption <|> last) events (⟨t, history, x, st'⟩ :: pulls)) :
    Happen s item q last (.asks r :: events) (⟨st, asked ++ history, x, st'⟩ :: pulls)
  | gives {last : Option (Page α)} {x : Pulled α} {st : AuthState} {events : List (StreamEvent α)}
    {pulls : List (Pull α)} (more : Happen s item q last events pulls) :
    Happen s item q last (.gives x :: events) (⟨st, [], x, st⟩ :: pulls)

theorem Happen.ended (last : Option (Page α)) (states : List AuthState) : Happen s item q last
    (List.replicate states.length (.gives .ended)) (states.map Pull.atEnd) := by
  induction states with
  | nil => exact .rest last
  | cons st states ih => exact .gives ih

theorem Happen.failed {last : Option (Page α)} {st st' : AuthState} {asked : List Exchange}
    {e : Error} (h : q.Asks s item st last asked (.error e) st') (states : List AuthState) :
    Happen s item q last
      (.asks (.error e) :: .gives (.failed e) :: List.replicate states.length (.gives .ended))
      (⟨st, asked, .failed e, st'⟩ :: states.map Pull.atEnd) := by
  have hhappen := Happen.asks h (.gives (x := .failed e) (.ended _ states))
  rwa [List.append_nil] at hhappen

/-- Records at hand are given, and then page after page is asked for and its records are given. -/
def deliveries (records : List α) (pages : List (Page α)) : List (StreamEvent α) :=
  records.map (fun a => gives (.record a)) ++
    pages.flatMap fun p => asks (.ok p) :: p.record.map fun a => gives (.record a)

theorem deliveries_record (a : α) (records : List α) (pages : List (Page α)) :
    deliveries (a :: records) pages = gives (.record a) :: deliveries records pages := rfl

theorem deliveries_page (p : Page α) (pages : List (Page α)) :
    deliveries [] (p :: pages) = asks (.ok p) :: deliveries p.record pages := rfl

/-- Events deliver the records at hand and those of pages, as far as they go: up to the end of the
stream, or up to a page that is asked for in vain. -/
def Deliver (records : List α) (pages : List (Page α)) (events : List (StreamEvent α)) : Prop :=
  (∃ m, events <+: deliveries records pages ++ List.replicate m (.gives .ended)) ∨
    ∃ i e m, i < pages.length ∧ events <+: deliveries records (pages.take i) ++
      .asks (.error e) :: .gives (.failed e) :: List.replicate m (.gives .ended)

namespace Deliver

variable {records : List α} {todo : List (Page α)} {events : List (StreamEvent α)}

theorem rest (records : List α) (todo : List (Page α)) : Deliver records todo [] :=
  .inl ⟨0, List.nil_prefix⟩

theorem record {a : α} (h : Deliver records todo events) :
    Deliver (a :: records) todo (.gives (.record a) :: events) := by
  unfold Deliver
  simp only [deliveries_record, List.cons_append, List.cons_prefix_cons, true_and]
  exact h

theorem page {p : Page α} (h : Deliver p.record todo events) :
    Deliver [] (p :: todo) (.asks (.ok p) :: events) := by
  obtain ⟨m, h⟩ | ⟨i, e, m, hi, h⟩ := h
  · refine .inl ⟨m, ?_⟩
    rw [deliveries_page, List.cons_append]
    exact List.cons_prefix_cons.2 ⟨rfl, h⟩
  · refine .inr ⟨i + 1, e, m, Nat.succ_lt_succ hi, ?_⟩
    rw [List.take_succ_cons, deliveries_page, List.cons_append]
    exact List.cons_prefix_cons.2 ⟨rfl, h⟩

theorem ended (m : Nat) : Deliver [] ([] : List (Page α)) (List.replicate m (.gives .ended)) :=
  .inl ⟨m, List.prefix_rfl⟩

theorem failed (hne : todo ≠ []) (e : Error) (m : Nat) : Deliver [] todo
    (.asks (.error e) :: .gives (.failed e) :: List.replicate m (.gives .ended)) :=
  .inr ⟨0, e, m, List.length_pos_of_ne_nil hne, List.prefix_rfl⟩

end Deliver

end StreamEvent

/-- A page leads through pages: each has one link to the next page of its own type, and the last
has none. -/
def Page.LeadsThrough : Page α → List (Page α) → Prop
  | p, [] => p.nextLinks = []
  | p, next :: more => (∃ l, p.nextLinks = [l]) ∧ next.LeadsThrough more

/-- A first page says that there are records if it has any. -/
def Page.IsCounted (p : Page α) : Prop := 0 < p.total ∨ p.record = []

theorem Page.LeadsThrough.eq_nil {p : Page α} {more : List (Page α)} (h : p.LeadsThrough more)
    (hnone : p.nextLinks = []) : more = [] := by
  cases more with
  | nil => rfl
  | cons next rest =>
    obtain ⟨⟨l, honly⟩, -⟩ := h
    cases hnone.symm.trans honly

theorem Page.LeadsThrough.exists_next {p : Page α} {more : List (Page α)}
    (h : p.LeadsThrough more) (hlinked : p.nextLinks ≠ []) :
    ∃ l next rest, p.nextLinks = [l] ∧ more = next :: rest ∧ next.LeadsThrough rest := by
  cases more with
  | nil => exact absurd h hlinked
  | cons next rest =>
    obtain ⟨⟨l, honly⟩, hnext⟩ := h
    exact ⟨l, next, rest, honly, rfl, hnext⟩

/-- A cursor follows the link to the next page if it is the only one. -/
theorem Page.neighbour_cases (p : Page α) :
    (p.nextLinks = [] ∧ p.cursor.neighbour "nextPage" = .ok none) ∨
      (∃ l, p.nextLinks = [l] ∧ p.cursor.neighbour "nextPage" = .ok (some l.href)) ∨
      ∃ l l' more, p.nextLinks = l :: l' :: more ∧ p.cursor.neighbour "nextPage" =
        .error (.multipleLinks (wantedLink p "nextPage" p.mediaType)) := by
  have hlinks : matchingLinks p "nextPage" p.mediaType = p.nextLinks := rfl
  rw [Page.neighbour_eq, hlinks]
  cases p.nextLinks with
  | nil => exact .inl ⟨rfl, rfl⟩
  | cons l more =>
    cases more with
    | nil => exact .inr (.inl ⟨l, rfl, rfl⟩)
    | cons l' more => exact .inr (.inr ⟨l, l', more, rfl, rfl⟩)

namespace PageIterator

variable {p : Page α} {st st' : AuthState} {history : List Exchange}
  {r : Result (Option (Page α) × PageIterator α)}

theorem runs_next {pages : PageIterator α} : (pages.next s item).Runs st history r st' ↔
    match pages.forward with
    | .ok step => (pages.take s item step).Runs st history r st'
    | .error e => history = [] ∧ r = .error e ∧ st' = st := by
  unfold next
  cases pages.forward with
  | ok step => exact Action.runs_ok_bind
  | error e => exact Action.runs_error_bind

/-- On a page the next step asks for the page after it, unless there is no link to one. -/
theorem runs_next_on (h : ((on q.format p).next s item).Runs st history r st') :
    (p.nextLinks = [] ∧ history = [] ∧ r = .ok (none, on q.format p) ∧ st' = st) ∨
      ∃ x, q.Asks s item st (some p) history x st' ∧
        r = x.map fun next => (some next, on q.format next) := by
  have hforward : (on q.format p).forward =
      (p.cursor.neighbour "nextPage").map fun href => href.elim .stay .fetch := step_on p .next
  rw [runs_next, hforward] at h
  obtain ⟨hnone, hneighbour⟩ | ⟨l, honly, hneighbour⟩ | ⟨l, l', more, hmany, hneighbour⟩ :=
    p.neighbour_cases
  · rw [hneighbour] at h
    obtain ⟨rfl, rfl, rfl⟩ := Action.runs_pure.1 h
    exact .inl ⟨hnone, rfl, rfl, rfl⟩
  · rw [hneighbour] at h
    obtain ⟨x, hcall, rfl⟩ := runs_take_fetch.1 h
    refine .inr ⟨_, .followed honly hcall rfl, ?_⟩
    cases x <;> rfl
  · rw [hneighbour] at h
    obtain ⟨rfl, rfl, rfl⟩ := h
    exact .inr ⟨_, .unclear hmany, rfl⟩

/-- Before a page the next step reads it, unless it says that it has no records and no successor. -/
theorem runs_next_before (h : ((before q.format p).next s item).Runs st history r st') :
    (p.nextLinks = [] ∧ ¬ 0 < p.total ∧ history = [] ∧ r = .ok (none, before q.format p) ∧
        st' = st) ∨
      (history = [] ∧ r = .ok (some p, on q.format p) ∧ st' = st) ∨
      ∃ e, q.Asks s item st (some p) history (.error e) st' ∧ (∀ l, p.nextLinks ≠ [l]) ∧
        r = .error e := by
  rw [runs_next, forward_before] at h
  obtain ⟨hnone, hneighbour⟩ | ⟨l, honly, hneighbour⟩ | ⟨l, l', more, hmany, hneighbour⟩ :=
    p.neighbour_cases
  · rw [hneighbour] at h
    by_cases htotal : 0 < p.total
    · have hread : ((before q.format p).take s item (.read p)).Runs st history r st' := by
        simpa [Except.map, htotal] using h
      exact .inr (.inl (Action.runs_pure.1 hread))
    · have hstay : ((before q.format p).take s item .stay).Runs st history r st' := by
        simpa [Except.map, htotal] using h
      exact .inl ⟨hnone, htotal, Action.runs_pure.1 hstay⟩
  · rw [hneighbour] at h
    have hread : ((before q.format p).take s item (.read p)).Runs st history r st' := by
      simpa [Except.map] using h
    exact .inr (.inl (Action.runs_pure.1 hread))
  · rw [hneighbour] at h
    obtain ⟨rfl, rfl, rfl⟩ := h
    refine .inr (.inr ⟨_, .unclear hmany, fun only honly => ?_, rfl⟩)
    cases hmany.symm.trans honly

end PageIterator

/-- Asking a query asks for its first page. -/
theorem Query.runs_execute {st st' : AuthState} {history : List Exchange}
    {r : Result (PageIterator α)} (h : (q.execute s item).Runs st history r st') :
    ∃ x, q.Asks s item st none history x st' ∧ r = x.map (.before q.format) := by
  unfold execute at h
  obtain ⟨e, hlooked, rfl⟩ | ⟨opening, address, t, rest, hlooked, hgoes, rfl⟩ := Action.runs_bind.1 h
  · exact ⟨_, .unfound hlooked, rfl⟩
  · obtain ⟨x, hcall, rfl⟩ := Action.runs_bind_pure.1 hgoes
    refine ⟨_, .opened hlooked (runs_getTyped.1 hcall) rfl, ?_⟩
    cases x <;> rfl

namespace RecordStream

open StreamEvent

/-- The records at hand and the pages that a stream has still to deliver after the last page that
it has read, if it passes over at most `n` more pages without records before its next answer. -/
inductive Ahead (q : Query) (patience : Nat) :
    Nat → Option (Page α) → RecordStream α → List α → List (Page α) → Prop
  | unasked {n : Nat} {first : Page α} {more : List (Page α)}
    (joined : first.LeadsThrough more) (counted : first.IsCounted) (fits : more.length + 1 < n)
    (most : n ≤ patience) : Ahead q patience n none (.unasked q) [] (first :: more)
  | unread {n : Nat} {p : Page α} {more : List (Page α)}
    (joined : p.LeadsThrough more) (counted : p.IsCounted) (fits : more.length + 1 < n)
    (most : n ≤ patience) :
    Ahead q patience n (some p) (.reading (.before q.format p) []) p.record more
  | reading {n : Nat} {p : Page α} {records : List α} {more : List (Page α)}
    (joined : p.LeadsThrough more) (fits : more.length < n) (most : n ≤ patience) :
    Ahead q patience n (some p) (.reading (.on q.format p) records) records more

/-- A stream of a query that has not ended, with the last page that it has read. -/
inductive Follows (q : Query) : RecordStream α → Option (Page α) → Prop
  | unasked : Follows q (.unasked q) none
  | unread (p : Page α) : Follows q (.reading (.before q.format p) []) (some p)
  | reading (p : Page α) (records : List α) :
    Follows q (.reading (.on q.format p) records) (some p)

/-- The pulls on a stream are events that deliver what is ahead of it, as far as the pages that are
read are those. -/
def Explains (s : Settings) (item : Decoder α) (q : Query) (patience n : Nat)
    (last : Option (Page α)) (stream : RecordStream α) (pulls : List (Pull α)) : Prop :=
  ∃ events, Happen s item q last events pulls ∧
    ∀ records todo, Ahead q patience n last stream records todo →
      pages events <+: todo → Deliver records todo events

namespace Explains

variable {last : Option (Page α)} {stream after : RecordStream α} {pulls : List (Pull α)}
  {x : Pulled α} {asked history : List Exchange} {p next : Page α} {k : Nat} {e : Error}
  {st t st' : AuthState}

theorem rest : Explains s item q patience n last stream [] :=
  ⟨[], .rest last, fun records todo _ _ => .rest records todo⟩

theorem record {a : α} {records : List α}
    (h : Explains s item q patience patience (some p) (.reading (.on q.format p) records) pulls) :
    Explains s item q patience n (some p) (.reading (.on q.format p) (a :: records))
      (⟨st, [], .record a, st⟩ :: pulls) := by
  obtain ⟨events, hhappen, hdeliver⟩ := h
  refine ⟨_, .gives hhappen, fun _ todo hahead hpages => ?_⟩
  cases hahead with
  | reading joined fits most =>
    rw [pages_gives] at hpages
    have hdone : Deliver records todo events :=
      hdeliver records todo (.reading joined (by omega) le_rfl) hpages
    exact hdone.record

/-- A page that was asked for is the next one that was ahead. -/
theorem asks (h : q.Asks s item st last asked (.ok next) t)
    (hmore : Explains s item q patience k (some next) after (⟨t, history, x, st'⟩ :: pulls))
    (hahead : ∀ records todo, Ahead q patience n last stream records todo → records = [] ∧
      ∃ p rest, todo = p :: rest ∧ (next = p → Ahead q patience k (some p) after p.record rest)) :
    Explains s item q patience n last stream (⟨st, asked ++ history, x, st'⟩ :: pulls) := by
  obtain ⟨events, hhappen, hdeliver⟩ := hmore
  refine ⟨_, .asks h hhappen, fun records todo hstream hpages => ?_⟩
  obtain ⟨rfl, p, rest, rfl, hafter⟩ := hahead records todo hstream
  rw [pages_asks_ok, List.cons_prefix_cons] at hpages
  obtain ⟨rfl, hpages⟩ := hpages
  have hdone : Deliver next.record rest events := hdeliver _ _ (hafter rfl) hpages
  exact hdone.page

theorem failed (h : q.Asks s item st last asked (.error e) t)
    (hgoes : (pure (.failed e, .ended) : Program (Pulled α × RecordStream α)).Runs t history
      (x, after) st') (hpulls : Pulls s item patience after pulls)
    (hahead : ∀ records todo, Ahead q patience n last stream records todo →
      records = [] ∧ todo ≠ []) :
    Explains s item q patience n last stream (⟨st, asked ++ history, x, st'⟩ :: pulls) := by
  obtain ⟨rfl, hanswer, rfl⟩ := hgoes
  cases hanswer
  obtain ⟨states, rfl⟩ := hpulls.of_ended
  rw [List.append_nil]
  refine ⟨_, Happen.failed h states, fun records todo hstream _ => ?_⟩
  obtain ⟨rfl, hne⟩ := hahead records todo hstream
  exact .failed hne e states.length

theorem ended (hgoes : (pure (.ended, .ended) : Program (Pulled α × RecordStream α)).Runs st
      history (x, after) st') (hpulls : Pulls s item patience after pulls)
    (hahead : ∀ records todo, Ahead q patience n last stream records todo →
      records = [] ∧ todo = []) :
    Explains s item q patience n last stream (⟨st, history, x, st'⟩ :: pulls) := by
  obtain ⟨rfl, hanswer, rfl⟩ := hgoes
  cases hanswer
  obtain ⟨states, rfl⟩ := hpulls.of_ended
  refine ⟨_, Happen.ended last (st' :: states), fun records todo hstream _ => ?_⟩
  obtain ⟨rfl, rfl⟩ := hahead records todo hstream
  exact .ended (states.length + 1)

theorem waiting (h : Explains s item q patience patience last stream pulls) :
    Explains s item q patience 0 last stream (⟨st, [], .waiting, st⟩ :: pulls) := by
  obtain ⟨events, hhappen, -⟩ := h
  refine ⟨_, .gives hhappen, fun _ _ hahead _ => ?_⟩
  cases hahead <;> omega

theorem unread
    (h : Explains s item q patience n (some p) (.reading (.on q.format p) p.record) pulls) :
    Explains s item q patience (n + 1) (some p) (.reading (.before q.format p) []) pulls := by
  obtain ⟨events, hhappen, hdeliver⟩ := h
  refine ⟨events, hhappen, fun _ todo hahead hpages => ?_⟩
  cases hahead with
  | unread joined counted fits most =>
    exact hdeliver _ _ (.reading joined (by omega) (by omega)) hpages

end Explains

section Pull

variable {st st' : AuthState} {history : List Exchange} {x : Pulled α} {after : RecordStream α}
  {pulls : List (Pull α)} {p : Page α}

/-- After a page was read its first record is given, or the pull goes on after it. -/
theorem explains_read
    (h : (match p.record with
      | a :: records => (pure (.record a, .reading (.on q.format p) records) :
          Program (Pulled α × RecordStream α))
      | [] => (PageIterator.on q.format p).firstRecord s item n).Runs st history (x, after) st')
    (hrest : ∀ last, Follows q after last → Explains s item q patience patience last after pulls)
    (hempty : ((PageIterator.on q.format p).firstRecord s item n).Runs st history (x, after) st' →
      Explains s item q patience n (some p) (.reading (.on q.format p) [])
        (⟨st, history, x, st'⟩ :: pulls)) :
    Explains s item q patience n (some p) (.reading (.on q.format p) p.record)
      (⟨st, history, x, st'⟩ :: pulls) := by
  cases hrecord : p.record with
  | nil =>
    rw [hrecord] at h
    exact hempty h
  | cons a records =>
    rw [hrecord] at h
    obtain ⟨rfl, hanswer, rfl⟩ := h
    cases hanswer
    exact .record (hrest _ (.reading p records))

-- The induction is on the pages without records that may be passed over in this pull; a page with
-- a record, an error or the last page ends it.
theorem explains_firstRecord_on
    (h : ((PageIterator.on q.format p).firstRecord s item n).Runs st history (x, after) st')
    (hpulls : Pulls s item patience after pulls)
    (hrest : ∀ last, Follows q after last → Explains s item q patience patience last after pulls) :
    Explains s item q patience n (some p) (.reading (.on q.format p) [])
      (⟨st, history, x, st'⟩ :: pulls) := by
  induction n generalizing st history p with
  | zero =>
    obtain ⟨rfl, hanswer, rfl⟩ := h
    cases hanswer
    exact .waiting (hrest _ (.reading p []))
  | succ n ih =>
    unfold PageIterator.firstRecord at h
    obtain ⟨asked, r, t, rest, hnext, hgoes, rfl⟩ := Action.runs_run_bind.1 h
    obtain ⟨hnone, rfl, rfl, rfl⟩ | ⟨found, hasks, rfl⟩ := PageIterator.runs_next_on hnext
    · refine .ended hgoes hpulls fun records todo hahead => ?_
      cases hahead with
      | reading joined fits most => exact ⟨rfl, joined.eq_nil hnone⟩
    · cases found with
      | ok next =>
        refine .asks hasks (explains_read hgoes hrest fun h => ih h) fun records todo hahead => ?_
        cases hahead with
        | reading joined fits most =>
          obtain ⟨_, p', more, -, rfl, hjoined⟩ := joined.exists_next hasks.linked
          refine ⟨rfl, p', more, rfl, ?_⟩
          rintro rfl
          rw [List.length_cons] at fits
          exact .reading hjoined (by omega) (by omega)
      | error e =>
        refine .failed hasks hgoes hpulls fun records todo hahead => ?_
        cases hahead with
        | reading joined fits most =>
          obtain ⟨_, p', more, -, rfl, -⟩ := joined.exists_next hasks.linked
          exact ⟨rfl, List.cons_ne_nil _ _⟩

theorem explains_firstRecord_before
    (h : ((PageIterator.before q.format p).firstRecord s item n).Runs st history (x, after) st')
    (hpulls : Pulls s item patience after pulls)
    (hrest : ∀ last, Follows q after last → Explains s item q patience patience last after pulls) :
    Explains s item q patience n (some p) (.reading (.before q.format p) [])
      (⟨st, history, x, st'⟩ :: pulls) := by
  cases n with
  | zero =>
    obtain ⟨rfl, hanswer, rfl⟩ := h
    cases hanswer
    exact .waiting (hrest _ (.unread p))
  | succ n =>
    unfold PageIterator.firstRecord at h
    obtain ⟨asked, r, t, rest, hnext, hgoes, rfl⟩ := Action.runs_run_bind.1 h
    obtain ⟨hnone, htotal, rfl, rfl, rfl⟩ | ⟨rfl, rfl, rfl⟩ | ⟨e, hasks, hunclear, rfl⟩ :=
      PageIterator.runs_next_before hnext
    · refine .ended hgoes hpulls fun records todo hahead => ?_
      cases hahead with
      | unread joined counted fits most =>
        exact ⟨counted.resolve_left htotal, joined.eq_nil hnone⟩
    · exact .unread (explains_read hgoes hrest fun h => explains_firstRecord_on h hpulls hrest)
    · refine .failed hasks hgoes hpulls fun records todo hahead => ?_
      cases hahead with
      | unread joined counted fits most =>
        obtain ⟨l, _, _, honly, -, -⟩ := joined.exists_next hasks.linked
        exact absurd honly (hunclear l)

end Pull

theorem Pulls.explains {stream : RecordStream α} {pulls : List (Pull α)}
    (h : Pulls s item patience stream pulls) {last : Option (Page α)}
    (hfollows : Follows q stream last) : Explains s item q patience patience last stream pulls := by
  induction h generalizing last with
  | rest => exact .rest
  | pull runs more ih =>
    cases hfollows with
    | unasked =>
      unfold RecordStream.pull at runs
      obtain ⟨asked, r, t, rest, hexecute, hgoes, rfl⟩ := Action.runs_run_bind.1 runs
      obtain ⟨found, hasks, rfl⟩ := Query.runs_execute hexecute
      cases found with
      | ok p =>
        refine .asks hasks (explains_firstRecord_before hgoes more fun _ => ih) ?_
        intro records todo hahead
        cases hahead with
        | unasked joined counted fits most =>
          refine ⟨rfl, _, _, rfl, ?_⟩
          rintro rfl
          exact .unread joined counted fits most
      | error e =>
        refine .failed hasks hgoes more fun records todo hahead => ?_
        cases hahead with
        | unasked joined counted fits most => exact ⟨rfl, List.cons_ne_nil _ _⟩
    | unread p => exact explains_firstRecord_before runs more fun _ => ih
    | reading p records =>
      cases records with
      | nil => exact explains_firstRecord_on runs more fun _ => ih
      | cons a records =>
        obtain ⟨rfl, hanswer, rfl⟩ := runs
        cases hanswer
        exact .record (ih (.reading p records))

end RecordStream

/-- The pages after the last one that was read, as they are on a site: a first page is at the
address of the query, and every other one where the link before it leads. -/
inductive Query.Leads (s : Settings) (q : Query) (site : Url → Option (Page α)) :
    Option (Page α) → List (Page α) → Prop
  | opens {first : Page α} {more : List (Page α)}
    (there : ∀ st history address st' url, (q.address s).Runs st history (.ok address) st' →
      parseUrl address.text = .ok url → site url = some first)
    (later : Leads s q site (some first) more) : Leads s q site none (first :: more)
  | links {p next : Page α} {more : List (Page α)} (there : p.LeadsTo site .next (some next))
    (later : Leads s q site (some next) more) : Leads s q site (some p) (next :: more)
  | ends {p : Page α} (last : p.LeadsTo site .next none) : Leads s q site (some p) []

/-- A packaged query is at its path under the endpoint. -/
theorem Query.address_of_packaged {path : String} (hpackaged : q.target = .packaged path)
    {st st' : AuthState} {history : List Exchange} {address : Url}
    (h : (q.address s).Runs st history (.ok address) st') : ∃ base, s.apiUrl path = .ok base ∧
      address = (base.appendPair ("format", q.format.name)).appendPairs q.parameters := by
  unfold Query.address baseUrl at h
  simp only [hpackaged] at h
  cases hbase : s.apiUrl path with
  | error e =>
    rw [hbase] at h
    obtain ⟨-, hr, -⟩ := Action.runs_error_bind.1 h
    cases hr
  | ok base =>
    rw [hbase] at h
    obtain ⟨-, hr, -⟩ := Action.runs_pure.1 h
    cases hr
    exact ⟨base, rfl, rfl⟩

/-- From servers that tell what is on a site, the pages are read in their order. -/
theorem StreamEvent.Happen.pages_prefix {site : Url → Option (Page α)} {last : Option (Page α)}
    {events : List (StreamEvent α)} {pulls : List (Pull α)} {todo : List (Page α)}
    (h : Happen s item q last events pulls) (hleads : q.Leads s site last todo)
    (htells : ∀ v ∈ pulls, TellsPages site item v.history) : pages events <+: todo := by
  induction h generalizing todo with
  | rest => exact List.nil_prefix
  | gives more ih =>
    rw [pages_gives]
    exact ih hleads (List.forall_mem_cons.1 htells).2
  | @asks last r asked history x st t st' events pulls asks more ih =>
    obtain ⟨htold, hothers⟩ := List.forall_mem_cons.1 htells
    have hlater : ∀ v ∈ ⟨t, history, x, st'⟩ :: pulls, TellsPages site item v.history :=
      List.forall_mem_cons.2 ⟨fun e he => htold e (List.mem_append_right _ he), hothers⟩
    have hread {url : Url} {page : Page α} {fetched : List Exchange} (hsub : fetched ⊆ asked)
        (hfetch : Fetches s url (·.Reads item url page) fetched) : site url = some page := by
      obtain ⟨e, he, hreads⟩ := hfetch.exists_last
      exact htold e (List.mem_append_left _ (hsub he)) url page hreads
    cases r with
    | error e =>
      rw [pages_asks_error]
      exact ih hleads hlater
    | ok page =>
      rw [pages_asks_ok]
      cases asks with
      | @opened _ _ _ found _ _ _ looked call answer =>
        obtain ⟨response, rfl, rfl⟩ := Result.map_eq_ok.1 answer.symm
        obtain ⟨url, hurl, hfetch⟩ := call.fetches
        cases hleads with
        | opens there later =>
          have hsite := hread (List.subset_append_right _ _) hfetch
          obtain rfl := Option.some.inj (hsite.symm.trans (there _ _ _ _ _ looked hurl))
          exact List.cons_prefix_cons.2 ⟨rfl, ih later hlater⟩
      | followed only call answer =>
        obtain ⟨response, rfl, rfl⟩ := Result.map_eq_ok.1 answer.symm
        obtain ⟨url, hurl, hfetch⟩ := call.fetches
        cases hleads with
        | links there later =>
          obtain ⟨l, honly, haddress⟩ := there
          obtain rfl := List.singleton_inj.1 (only.symm.trans honly)
          have hsite := hread (List.Subset.refl _) hfetch
          obtain rfl := Option.some.inj (hsite.symm.trans (haddress _ hurl))
          exact List.cons_prefix_cons.2 ⟨rfl, ih later hlater⟩
        | ends hnone => cases only.symm.trans hnone

namespace RecordStream

open StreamEvent

/-- A stream of a query can be pulled as often as one likes, in any contexts and against any
servers. If the pages that are read are those of a chain, one after the other, as they are if
servers tell what is on a site, then the stream delivers this chain to a reader whose patience is
not exhausted by it. -/
theorem unasked_delivers (s : Settings) (item : Decoder α) (q : Query) (patience : Nat)
    {first : Page α} {more : List (Page α)} (joined : first.LeadsThrough more)
    (counted : first.IsCounted) (fits : (first :: more).length < patience) :
    (∀ turns, ∃ pulls, Pulls s item patience (.unasked q) pulls ∧
        List.Forall₂ Pull.Makes pulls turns) ∧
      ∀ pulls, Pulls s item patience (.unasked q) pulls → ∃ events,
        Happen s item q none events pulls ∧
          (∀ site, q.Leads s site none (first :: more) →
            (∀ v ∈ pulls, TellsPages site item v.history) → pages events <+: first :: more) ∧
          (pages events <+: first :: more → Deliver [] (first :: more) events) := by
  refine ⟨exists_pulls _ s item patience, fun pulls hpulls => ?_⟩
  obtain ⟨events, hhappen, hdeliver⟩ := hpulls.explains (q := q) .unasked
  exact ⟨events, hhappen, fun site hleads htells => hhappen.pages_prefix hleads htells,
    hdeliver _ _ (.unasked joined counted fits le_rfl)⟩

/-- Three pages, the second of which has no records, and five pulls. The first page is asked for with
the first record, and both others with the third one. -/
theorem unasked_delivers_past_empty_page : ∃ (s : Settings) (item : Decoder String) (q : Query)
    (site : Url → Option (Page String)) (first second third : Page String)
    (pulls : List (Pull String)) (events : List (StreamEvent String)),
      first.record = ["a", "b"] ∧ second.record = [] ∧ third.record = ["c"] ∧
      first.LeadsThrough [second, third] ∧ first.IsCounted ∧
      q.Leads s site none [first, second, third] ∧
      (∀ v ∈ pulls, TellsPages site item v.history) ∧
      Pulls s item 4 (.unasked q) pulls ∧
      pulls.map Pull.answer = [.record "a", .record "b", .record "c", .ended, .ended] ∧
      pulls.map (fun v => v.history.map fun e => (e.request.method, e.request.url.text)) =
        [[(.get, "https://vcd/api/vms?format=records&page=1&links=true")], [],
          [(.get, "https://vcd/2"), (.get, "https://vcd/3")], [], []] ∧
      Happen s item q none events pulls ∧ Deliver [] [first, second, third] events := by
  let endpoint : Url :=
    ⟨"https".toList, some ⟨[], none, "vcd".toList, none⟩, .segments ["api".toList, []], none, none⟩
  let s : Settings := { Settings.ofEndpoint endpoint with requestIds := .off }
  let item : Decoder String := .text
  let q : Query := .make (.packaged "vms") .records
  let first : Page String :=
    ⟨none, none, none, 0, 0, 3, [⟨"nextPage", "https://vcd/2", none, none⟩], ["a", "b"]⟩
  let second : Page String :=
    ⟨none, none, none, 0, 0, 3, [⟨"nextPage", "https://vcd/3", none, none⟩], []⟩
  let third : Page String := ⟨none, none, none, 0, 0, 3, [], ["c"]⟩
  let address (base : Url) : Url :=
    (base.appendPair ("format", q.format.name)).appendPairs q.parameters
  let home : Result Url := s.apiUrl "vms" >>= fun base => parseUrl (address base).text
  let table : List (Result Url × Page String) :=
    [(home, first), (parseUrl "https://vcd/2", second), (parseUrl "https://vcd/3", third)]
  let site (url : Url) : Option (Page String) := table.lookup (.ok url)
  have hleads : q.Leads s site none [first, second, third] := by
    have hsite {url : Url} {place : Result Url} (h : place = .ok url) :
        site url = table.lookup place := by rw [h]
    refine .opens ?_ (.links ⟨_, rfl, ?_⟩ (.links ⟨_, rfl, ?_⟩ (.ends rfl)))
    · intro st history target st' url hlooked hurl
      obtain ⟨base, hbase, rfl⟩ := Query.address_of_packaged rfl hlooked
      have hhome : home = .ok url := Result.bind_eq_ok.2 ⟨base, hbase, hurl⟩
      have hfirst : table.lookup home = some first := by decide +kernel
      exact (hsite hhome).trans hfirst
    · intro url hurl
      have hsecond : table.lookup (parseUrl "https://vcd/2") = some second := by decide +kernel
      exact (hsite hurl).trans hsecond
    · intro url hurl
      have hthird : table.lookup (parseUrl "https://vcd/3") = some third := by decide +kernel
      exact (hsite hurl).trans hthird
  have hjoined : first.LeadsThrough [second, third] := ⟨⟨_, rfl⟩, ⟨_, rfl⟩, rfl⟩
  have hcounted : first.IsCounted := .inl (by decide)
  let reply (p : Page String) : Outcome := .reply ⟨.ok, .empty, (p.toJson .string).text⟩
  let w : World :=
    ⟨.empty, none, fun _ => 0, 0, default, .scripted [reply first, reply second, reply third]⟩
  let pulls := (RecordStream.unasked q).pullsIn s item 4 5 w
  obtain ⟨htold, hanswers, hgets⟩ : (∀ v ∈ pulls, ∀ e ∈ v.history,
        e.outcome.result.toOption.bind (pageOf? item) = site e.request.url) ∧
      pulls.map Pull.answer = [.record "a", .record "b", .record "c", .ended, .ended] ∧
      pulls.map (fun v => v.history.map fun e => (e.request.method, e.request.url.text)) =
        [[(.get, "https://vcd/api/vms?format=records&page=1&links=true")], [],
          [(.get, "https://vcd/2"), (.get, "https://vcd/3")], [], []] := by
    decide +kernel
  have htells : ∀ v ∈ pulls, TellsPages site item v.history :=
    fun v hv => .of_forall (htold v hv)
  have hpulls : Pulls s item 4 (.unasked q) pulls := pulls_pullsIn _ w
  obtain ⟨-, hevents⟩ := unasked_delivers s item q 4 hjoined hcounted (by decide)
  obtain ⟨events, hhappen, hsite, hdeliver⟩ := hevents pulls hpulls
  exact ⟨s, item, q, site, first, second, third, pulls, events, rfl, rfl, rfl, hjoined, hcounted,
    hleads, htells, hpulls, hanswers, hgets, hhappen, hdeliver (hsite _ hleads htells)⟩

end RecordStream

end CloudDirector
