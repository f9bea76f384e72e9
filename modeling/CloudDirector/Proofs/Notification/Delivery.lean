import CloudDirector.Notification.Bus
import Mathlib.Data.List.Basic

/-!
# Delivery of events

What any sequence of calls on a bus answers. A subscriber reads as from a queue of the events after
its subscription, out of which the oldest fall when it holds more than the bus has room for, and is
told how many did: what it received and what it missed together are what was published.
-/
namespace CloudDirector

theorem isPowerOfTwo_roundedSize (capacity : Nat) : (roundedSize capacity).isPowerOfTwo := by
  unfold roundedSize
  split
  · exact ⟨0, rfl⟩
  · exact ⟨_, Nat.one_shiftLeft _⟩

theorem roundedSize_bounds {capacity : Nat} (h : 1 ≤ capacity) :
    capacity ≤ roundedSize capacity ∧ roundedSize capacity < 2 * capacity := by
  unfold roundedSize
  split
  case isTrue hone => omega
  case isFalse hmore =>
    have hleast : 2 ^ (capacity - 1).log2 ≤ capacity - 1 := Nat.log2_self_le (by omega)
    have hnext : capacity - 1 < 2 ^ ((capacity - 1).log2 + 1) := Nat.lt_log2_self
    rw [Nat.one_shiftLeft]
    rw [Nat.pow_succ] at hnext ⊢
    omega

/-- A call on a bus. -/
inductive BusCall where
  | subscribe
  | unsubscribe (id : Nat)
  | process (payload : List (String × String))
  | receive (id : Nat)
  deriving DecidableEq, Repr

/-- What a call on a bus answers. -/
inductive BusAnswer where
  | subscribed (id : Nat)
  | unsubscribed
  | processed (event : Option Event)
  | received (r : Received)
  /-- There is no such subscriber. -/
  | refused
  deriving DecidableEq, Repr

namespace Bus

variable {b : Bus} {calls : List BusCall}

def perform (b : Bus) : BusCall → BusAnswer × Bus
  | .subscribe => (.subscribed b.subscribe.1, b.subscribe.2)
  | .unsubscribe id => (.unsubscribed, b.unsubscribe id)
  | .process payload => (.processed (b.process payload).1, (b.process payload).2)
  | .receive id =>
    match b.receive? id with
    | some (r, next) => (.received r, next)
    | none => (.refused, b)

def after (b : Bus) : List BusCall → Bus
  | [] => b
  | c :: calls => (b.perform c).2.after calls

def history (b : Bus) : List BusCall → List (BusCall × BusAnswer)
  | [] => []
  | c :: calls => (c, (b.perform c).1) :: (b.perform c).2.history calls

theorem map_fst_history (b : Bus) (calls : List BusCall) :
    (b.history calls).map Prod.fst = calls := by
  induction calls generalizing b with
  | nil => rfl
  | cons c calls ih => simp [history, ih]

theorem history_eq_append {past rest : List (BusCall × BusAnswer)}
    (h : b.history calls = past ++ rest) :
    ∃ before following, calls = before ++ following ∧ past = b.history before ∧
      rest = (b.after before).history following := by
  induction past generalizing b calls with
  | nil => exact ⟨[], calls, rfl, rfl, h.symm⟩
  | cons entry past ih =>
    cases calls with
    | nil => cases h
    | cons c calls =>
      obtain ⟨hentry, hpast⟩ := List.cons.inj h
      obtain ⟨before, following, rfl, rfl, hrest⟩ := ih hpast
      exact ⟨c :: before, following, rfl, by rw [← hentry]; rfl, hrest⟩

end Bus

def recognizedTypes : List (String × EventKind) :=
  [("com/vmware/vcloud/event/vc/create", .create), ("com/vmware/vcloud/event/vc/modify", .modify),
    ("com/vmware/vcloud/event/vc/refresh", .modify), ("com/vmware/vcloud/event/vc/delete", .delete)]

/-- A payload has an entity and a recognized type, and tells of this event. -/
structure Reports (payload : List (String × String)) (e : Event) : Prop where
  kind : ∃ type, payload.lookup "type" = some type ∧ (type, e.kind) ∈ recognizedTypes
  entity : payload.lookup "entity" = some e.entity
  succeeded : e.succeeded =
    (payload.lookup "operationSuccess").any fun v => Text.lower v == "true"

def IsRecognized (payload : List (String × String)) : Prop :=
  (∃ type ∈ recognizedTypes.map Prod.fst, payload.lookup "type" = some type) ∧
    (payload.lookup "entity").isSome

theorem exists_reports {payload : List (String × String)} :
    (∃ e, Reports payload e) ↔ IsRecognized payload := by
  constructor
  · rintro ⟨e, ⟨type, htype, hkind⟩, hentity, -⟩
    exact ⟨⟨type, List.mem_map_of_mem hkind, htype⟩, hentity ▸ rfl⟩
  · rintro ⟨⟨_, htypes, htype⟩, hentity⟩
    obtain ⟨⟨type, kind⟩, hkind, rfl⟩ := List.mem_map.1 htypes
    obtain ⟨entity, hentity⟩ := Option.isSome_iff_exists.1 hentity
    exact ⟨⟨kind, entity, _⟩, ⟨type, htype, hkind⟩, hentity, rfl⟩

theorem EventKind.ofType?_eq_some {type : String} {kind : EventKind} :
    ofType? type = some kind ↔ (type, kind) ∈ recognizedTypes := by
  unfold ofType? recognizedTypes
  constructor
  · intro h
    split_ifs at h with hcreate hmodify hrefresh hdelete <;> cases h <;> simp [*]
  · intro h
    simp only [List.mem_cons, Prod.mk.injEq, List.not_mem_nil, or_false] at h
    obtain ⟨rfl, rfl⟩ | ⟨rfl, rfl⟩ | ⟨rfl, rfl⟩ | ⟨rfl, rfl⟩ := h <;> rfl

/-- A call with a payload answers the event of which the payload tells. -/
theorem Bus.process_eq_some {b : Bus} {payload : List (String × String)} {e : Event} :
    (b.process payload).1 = some e ↔ Reports payload e := by
  have hanswer : (b.process payload).1 =
      (Notification.ofPayload? payload).bind Event.ofNotification? := by
    unfold process
    split <;> simp [*]
  rw [hanswer]
  simp only [Notification.ofPayload?, Event.ofNotification?, Option.bind_eq_bind,
    Option.bind_eq_some_iff, Option.some.injEq, Option.map_eq_some_iff,
    EventKind.ofType?_eq_some]
  constructor
  · rintro ⟨_, ⟨type, htype, entity, hentity, rfl⟩, kind, hkind, rfl⟩
    exact ⟨⟨type, htype, hkind⟩, hentity, rfl⟩
  · rintro ⟨⟨type, htype, hkind⟩, hentity, hsucceeded⟩
    refine ⟨_, ⟨type, htype, e.entity, hentity, rfl⟩, e.kind, hkind, ?_⟩
    rw [← hsucceeded]

/-- What a subscriber notices: an event that is published, or an answer that it receives. -/
inductive Moment where
  | published (e : Event)
  | answered (r : Received)
  deriving DecidableEq, Repr

namespace Moment

/-- What a subscriber notices of a call. -/
def of? (id : Nat) : BusCall × BusAnswer → Option Moment
  | (.process _, .processed (some e)) => some (.published e)
  | (.receive i, .received r) => if i = id then some (.answered r) else none
  | _ => none

/-- What a subscriber notices of some calls. -/
def timeline (id : Nat) (history : List (BusCall × BusAnswer)) : List Moment :=
  history.filterMap (of? id)

theorem timeline_cons (id : Nat) (entry : BusCall × BusAnswer)
    (history : List (BusCall × BusAnswer)) :
    timeline id (entry :: history) = (of? id entry).toList ++ timeline id history := by
  unfold timeline
  rw [List.filterMap_cons]
  cases of? id entry <;> rfl

@[simp] def publishedIn : List Moment → List Event
  | [] => []
  | .published e :: ms => e :: publishedIn ms
  | .answered _ :: ms => publishedIn ms

@[simp] def receivedIn : List Moment → List Event
  | [] => []
  | .answered (.event e) :: ms => e :: receivedIn ms
  | .answered .empty :: ms | .answered (.lagged _) :: ms | .published _ :: ms => receivedIn ms

/-- The number of events that are reported as missed. -/
@[simp] def missedIn : List Moment → Nat
  | [] => 0
  | .answered (.lagged n) :: ms => n + missedIn ms
  | .answered .empty :: ms | .answered (.event _) :: ms | .published _ :: ms => missedIn ms

end Moment

/-- Moments lead a subscriber from some unread events to others: events are read in the order in
which they are published, and only from more than `size` unread ones the oldest are lost, down to
`size` of them, and counted in the answer. -/
inductive Reading (size : Nat) : List Event → List Moment → List Event → Prop where
  | done {unread} : Reading size unread [] unread
  | published {unread e ms left} (rest : Reading size (unread ++ [e]) ms left) :
      Reading size unread (.published e :: ms) left
  | event {unread e ms left} (room : (e :: unread).length ≤ size)
      (rest : Reading size unread ms left) :
      Reading size (e :: unread) (.answered (.event e) :: ms) left
  | empty {ms left} (rest : Reading size [] ms left) :
      Reading size [] (.answered .empty :: ms) left
  | lagged {lost kept ms left} (more : lost ≠ []) (room : kept.length = size)
      (rest : Reading size kept ms left) :
      Reading size (lost ++ kept) (.answered (.lagged lost.length) :: ms) left

namespace Reading

open Moment

variable {size : Nat} {unread left : List Event} {ms : List Moment}

/-- What is received and what is left stands in the order of publication. -/
theorem sublist (h : Reading size unread ms left) :
    (receivedIn ms ++ left).Sublist (unread ++ publishedIn ms) := by
  induction h with
  | done => simp
  | published rest ih => simpa using ih
  | event room rest ih => simpa using ih
  | empty rest ih => simpa using ih
  | @lagged lost kept ms left more room rest ih =>
    have hlost : (receivedIn ms ++ left).Sublist (lost ++ (kept ++ publishedIn ms)) :=
      ih.trans (List.sublist_append_right _ _)
    simpa using hlost

/-- What is received, reported as missed and left is what was there and what is published. -/
theorem conserves (h : Reading size unread ms left) :
    (receivedIn ms).length + missedIn ms + left.length =
      unread.length + (publishedIn ms).length := by
  induction h with
  | done => simp
  | published rest ih =>
    simp only [receivedIn, missedIn, publishedIn, List.length_append, List.length_cons,
      List.length_nil] at ih ⊢
    omega
  | event room rest ih =>
    simp only [receivedIn, missedIn, publishedIn, List.length_cons] at ih ⊢
    omega
  | empty rest ih => simpa using ih
  | lagged more room rest ih =>
    simp only [receivedIn, missedIn, publishedIn, List.length_append] at ih ⊢
    omega

theorem left_eq_unread (h : Reading size unread [] left) : left = unread := by
  cases h
  rfl

/-- After the answer that there is nothing, nothing is left. -/
theorem left_eq_nil (h : Reading size unread ms left)
    (hlast : ms.getLast? = some (.answered .empty)) : left = [] := by
  induction h with
  | done => cases hlast
  | @empty ms left rest ih =>
    cases ms with
    | nil => exact rest.left_eq_unread
    | cons m ms => exact ih (by simpa using hlast)
  | @published _ _ ms _ _ ih | @event _ _ ms _ _ _ ih | @lagged _ _ ms _ _ _ _ ih =>
    cases ms with
    | nil => cases hlast
    | cons m ms => exact ih (by simpa using hlast)

end Reading

namespace Bus

variable {b : Bus} {size : Nat} {log unread : List Event} {id : Nat}

/-- A bus of this size on which these events were published. -/
structure Logs (b : Bus) (size : Nat) (log : List Event) : Prop where
  sized : b.size = size
  published : b.published = log.length
  kept : b.kept = log.drop (log.length - size)

/-- A subscriber of a bus with a log has these events before it. -/
structure Follows (b : Bus) (size : Nat) (log : List Event) (id : Nat) (unread : List Event) :
    Prop where
  logs : b.Logs size log
  position : ∃ p, b.position? id = some p ∧ p ≤ log.length ∧ unread = log.drop p

theorem lt_of_position? {p : Nat} (h : b.position? id = some p) : id < b.positions.length := by
  by_contra hout
  simp [position?, List.getElem?_eq_none (Nat.not_lt.1 hout)] at h

theorem position?_moveTo {p : Nat} (h : b.position? id = some p) (q : Nat) :
    (b.moveTo id q).position? id = some q := by
  simp [position?, moveTo, lt_of_position? h]

theorem position?_subscribe_old {p : Nat} (h : b.position? id = some p) :
    b.subscribe.2.position? id = b.position? id := by
  simp [position?, subscribe, List.getElem?_append_left (lt_of_position? h)]

theorem position?_subscribe (b : Bus) :
    b.subscribe.2.position? b.subscribe.1 = some b.published := by
  simp [position?, subscribe]

/-- Where other subscribers are does not matter. -/
theorem Follows.of_positions {ps : List (Option Nat)} (h : b.Follows size log id unread)
    (hps : ({ b with positions := ps } : Bus).position? id = b.position? id) :
    ({ b with positions := ps } : Bus).Follows size log id unread := by
  refine ⟨⟨h.logs.sized, h.logs.published, h.logs.kept⟩, ?_⟩
  rw [hps]
  exact h.position

theorem Follows.set_ne {i : Nat} (h : b.Follows size log id unread) (hi : i ≠ id)
    (p : Option Nat) :
    ({ b with positions := b.positions.set i p } : Bus).Follows size log id unread :=
  h.of_positions (by simp [position?, List.getElem?_set_ne hi])

theorem Follows.moveTo {p : Nat} (h : b.Follows size log id unread) (hp : p ≤ log.length) :
    (b.moveTo id p).Follows size log id (log.drop p) := by
  obtain ⟨q, hq, -, -⟩ := h.position
  exact ⟨⟨h.logs.sized, h.logs.published, h.logs.kept⟩, p, position?_moveTo hq p, hp, rfl⟩

theorem Logs.publish (h : b.Logs size log) (e : Event) : (b.publish e).Logs size (log ++ [e]) := by
  have hkept : (b.kept ++ [e]).drop (b.kept.length + 1 - b.size) =
      (log ++ [e]).drop (log.length + 1 - size) := by
    rw [h.kept, h.sized, ← List.drop_append_of_le_length (by omega), List.drop_drop,
      List.length_drop]
    congr 1
    omega
  exact ⟨h.sized, by simp [Bus.publish, h.published], by simpa [Bus.publish] using hkept⟩

theorem Follows.publish (h : b.Follows size log id unread) (e : Event) :
    (b.publish e).Follows size (log ++ [e]) id (unread ++ [e]) := by
  obtain ⟨p, hp, hle, rfl⟩ := h.position
  refine ⟨h.logs.publish e, p, hp, by simpa using Nat.le_succ_of_le hle, ?_⟩
  rw [List.drop_append_of_le_length hle]

theorem Logs.oldest (h : b.Logs size log) : b.oldest = log.length - size := by
  simp only [Bus.oldest, h.published, h.kept, List.length_drop]
  omega

/-- Every subscriber that has not left receives an answer, which fits what it has not read. -/
theorem Follows.receive (h : b.Follows size log id unread) :
    ∃ r next left, b.receive? id = some (r, next) ∧ next.Follows size log id left ∧
      ∀ {ms final}, Reading size left ms final → Reading size unread (.answered r :: ms) final := by
  obtain ⟨p, hp, hle, rfl⟩ := h.position
  have holdest := h.logs.oldest
  by_cases hlag : p < b.oldest
  · have hsplit : log.drop p = (log.drop p).take (b.oldest - p) ++ log.drop b.oldest := by
      have hdrop : log.drop b.oldest = (log.drop p).drop (b.oldest - p) := by
        rw [List.drop_drop]
        congr 1
        omega
      rw [hdrop, List.take_append_drop]
    have hlost : ((log.drop p).take (b.oldest - p)).length = b.oldest - p := by
      rw [List.length_take, List.length_drop]
      omega
    refine ⟨.lagged (b.oldest - p), b.moveTo id b.oldest, log.drop b.oldest, ?_,
      h.moveTo (by omega), fun hrest => ?_⟩
    · simp [receive?, hp, hlag]
    · have hroom : (log.drop b.oldest).length = size := by
        rw [List.length_drop]
        omega
      have hmore : (log.drop p).take (b.oldest - p) ≠ [] := by
        rw [← List.length_pos_iff]
        omega
      have hlagged := Reading.lagged hmore hroom hrest
      rw [← hsplit, hlost] at hlagged
      exact hlagged
  · have hnext : b.kept[p - b.oldest]? = log[p]? := by
      rw [h.logs.kept, List.getElem?_drop]
      congr 1
      omega
    cases hread : log[p]? with
    | some e =>
      have hlt : p < log.length := (List.getElem?_eq_some_iff.1 hread).1
      have hdrop : log.drop p = e :: log.drop (p + 1) := by
        rw [List.drop_eq_getElem_cons hlt, (List.getElem?_eq_some_iff.1 hread).2]
      refine ⟨.event e, b.moveTo id (p + 1), log.drop (p + 1), ?_, h.moveTo hlt, fun hrest => ?_⟩
      · simp [receive?, hp, hlag, hnext, hread]
      · have hroom : (e :: log.drop (p + 1)).length ≤ size := by
          rw [← hdrop, List.length_drop]
          omega
        rw [hdrop]
        exact .event hroom hrest
    | none =>
      have hnil : log.drop p = [] := List.drop_eq_nil_of_le (List.getElem?_eq_none_iff.1 hread)
      refine ⟨.empty, b, log.drop p, ?_, h, fun hrest => ?_⟩
      · simp [receive?, hp, hlag, hnext, hread]
      · rw [hnil] at hrest ⊢
        exact .empty hrest

theorem receive?_eq_some {r : Received} {next : Bus} (h : b.receive? id = some (r, next)) :
    next = b ∨ ∃ p, next = b.moveTo id p := by
  unfold receive? at h
  obtain ⟨p, -, h⟩ := Option.bind_eq_some_iff.1 h
  split at h
  · cases h
    exact .inr ⟨_, rfl⟩
  · split at h
    · cases h
      exact .inr ⟨_, rfl⟩
    · cases h
      exact .inl rfl

/-- A payload publishes an event or nothing. -/
theorem perform_process (b : Bus) (payload : List (String × String)) :
    (∃ e, b.perform (.process payload) = (.processed (some e), b.publish e)) ∨
      b.perform (.process payload) = (.processed none, b) := by
  simp only [perform, process]
  split
  · exact .inl ⟨_, rfl⟩
  · exact .inr rfl

/-- A receiver moves at most itself. -/
theorem perform_receive (b : Bus) (i : Nat) :
    (b.perform (.receive i)).2 = b ∨ ∃ p, (b.perform (.receive i)).2 = b.moveTo i p := by
  simp only [perform]
  split
  · exact receive?_eq_some ‹_›
  · exact .inl rfl

theorem Logs.perform (h : b.Logs size log) (c : BusCall) :
    ∃ log', (b.perform c).2.Logs size log' := by
  cases c with
  | subscribe | unsubscribe i => exact ⟨log, h.sized, h.published, h.kept⟩
  | process payload =>
    obtain ⟨e, heq⟩ | heq := b.perform_process payload
    · exact ⟨log ++ [e], heq ▸ h.publish e⟩
    · exact ⟨log, heq ▸ h⟩
  | receive i =>
    obtain heq | ⟨p, heq⟩ := b.perform_receive i
    · exact ⟨log, by rwa [heq]⟩
    · rw [heq]
      exact ⟨log, h.sized, h.published, h.kept⟩

theorem Logs.after (h : b.Logs size log) (calls : List BusCall) :
    ∃ log', (b.after calls).Logs size log' := by
  induction calls generalizing b log with
  | nil => exact ⟨log, h⟩
  | cons c calls ih =>
    obtain ⟨log', h'⟩ := h.perform c
    exact ih h'

/-- What one call does to a subscriber that does not leave by it. -/
theorem Follows.perform (h : b.Follows size log id unread) {c : BusCall}
    (hstays : c ≠ .unsubscribe id) :
    ∃ log' left, (b.perform c).2.Follows size log' id left ∧
      (c = .receive id → ∃ r, (b.perform c).1 = .received r) ∧
      ∀ {ms final}, Reading size left ms final →
        Reading size unread ((Moment.of? id (c, (b.perform c).1)).toList ++ ms) final := by
  cases c with
  | subscribe =>
    obtain ⟨p, hp, -⟩ := h.position
    exact ⟨log, unread, h.of_positions (position?_subscribe_old hp), nofun, fun hrest => hrest⟩
  | unsubscribe i =>
    have hi : i ≠ id := fun heq => hstays (heq ▸ rfl)
    exact ⟨log, unread, h.set_ne hi none, nofun, fun hrest => hrest⟩
  | process payload =>
    obtain ⟨e, heq⟩ | heq := b.perform_process payload
    · rw [heq]
      exact ⟨log ++ [e], unread ++ [e], h.publish e, nofun, .published⟩
    · rw [heq]
      exact ⟨log, unread, h, nofun, fun hrest => hrest⟩
  | receive i =>
    by_cases hi : i = id
    · subst hi
      obtain ⟨r, next, left, hreceive, hnext, hreads⟩ := h.receive
      have hperform : b.perform (.receive i) = (.received r, next) := by
        simp [Bus.perform, hreceive]
      rw [hperform]
      refine ⟨log, left, hnext, fun _ => ⟨r, rfl⟩, fun hrest => ?_⟩
      simpa [Moment.of?] using hreads hrest
    · have hnext : (b.perform (.receive i)).2.Follows size log id unread := by
        obtain heq | ⟨p, heq⟩ := b.perform_receive i
        · rwa [heq]
        · rw [heq]
          exact h.set_ne hi (some p)
      have hunseen (answer : BusAnswer) : Moment.of? id (.receive i, answer) = none := by
        cases answer <;> simp [Moment.of?, hi]
      refine ⟨log, unread, hnext, fun heq => absurd (BusCall.receive.inj heq) hi, fun hrest => ?_⟩
      rw [hunseen]
      exact hrest

/-- What any calls do to a subscriber that does not leave by one of them. -/
theorem Follows.history (h : b.Follows size log id unread) {calls : List BusCall}
    (hstays : .unsubscribe id ∉ calls) :
    (∀ answer, (.receive id, answer) ∈ b.history calls → ∃ r, answer = .received r) ∧
      ∃ left, Reading size unread (Moment.timeline id (b.history calls)) left := by
  induction calls generalizing b log unread with
  | nil => exact ⟨nofun, unread, .done⟩
  | cons c calls ih =>
    obtain ⟨hfirst, hrest⟩ := not_or.1 (mt List.mem_cons.2 hstays)
    obtain ⟨log', left, hnext, hanswer, hreads⟩ := h.perform (Ne.symm hfirst)
    obtain ⟨hanswers, final, hfinal⟩ := ih hnext hrest
    refine ⟨fun answer hmem => ?_, final, ?_⟩
    · rcases List.mem_cons.1 hmem with heq | hmem
      · obtain ⟨rfl, rfl⟩ := Prod.mk.inj heq
        exact hanswer rfl
      · exact hanswers answer hmem
    · rw [Bus.history, Moment.timeline_cons]
      exact hreads hfinal

theorem Logs.subscribe (h : b.Logs size log) :
    b.subscribe.2.Follows size log b.subscribe.1 [] := by
  refine ⟨⟨h.sized, h.published, h.kept⟩, log.length, ?_, Nat.le_refl _, ?_⟩
  · rw [position?_subscribe, h.published]
  · exact List.drop_length.symm

theorem logs_ofCapacity (capacity : Nat) : (ofCapacity capacity).Logs (roundedSize capacity) [] :=
  ⟨rfl, rfl, by simp [ofCapacity]⟩

theorem processed_of_mem {calls : List BusCall} {payload : List (String × String)}
    {answer : BusAnswer} (h : (.process payload, answer) ∈ b.history calls) :
    ∃ o, answer = .processed o ∧ (o.isSome ↔ IsRecognized payload) ∧
      ∀ e, o = some e ↔ Reports payload e := by
  induction calls generalizing b with
  | nil => cases h
  | cons c calls ih =>
    rcases List.mem_cons.1 h with heq | h
    · obtain ⟨rfl, rfl⟩ := Prod.mk.inj heq
      have hsome : (b.process payload).1.isSome ↔ IsRecognized payload := by
        rw [← exists_reports, Option.isSome_iff_exists]
        exact exists_congr fun e => process_eq_some
      exact ⟨(b.process payload).1, rfl, hsome, fun e => process_eq_some⟩
    · exact ih h

/-- Payloads are answered by what they report, and each subscriber, from its subscription until it
leaves, reads what is published as from a queue of limited length. -/
theorem history_delivers {capacity : Nat} (hcapacity : 1 ≤ capacity) :
    ((roundedSize capacity).isPowerOfTwo ∧ capacity ≤ roundedSize capacity ∧
      roundedSize capacity < 2 * capacity) ∧
    ∀ calls : List BusCall,
      (∀ payload answer, (.process payload, answer) ∈ (ofCapacity capacity).history calls →
        ∃ o, answer = .processed o ∧ (o.isSome ↔ IsRecognized payload) ∧
          ∀ e, o = some e ↔ Reports payload e) ∧
      ∀ past id stay rest,
        (ofCapacity capacity).history calls = past ++ (.subscribe, .subscribed id) :: stay ++ rest →
        .unsubscribe id ∉ stay.map Prod.fst →
        (∀ answer, (.receive id, answer) ∈ stay → ∃ r, answer = .received r) ∧
        ∃ unread, Reading (roundedSize capacity) [] (Moment.timeline id stay) unread ∧
          (Moment.receivedIn (Moment.timeline id stay) ++ unread).Sublist
            (Moment.publishedIn (Moment.timeline id stay)) ∧
          ((Moment.timeline id stay).getLast? = some (.answered .empty) →
            (Moment.receivedIn (Moment.timeline id stay)).length +
              Moment.missedIn (Moment.timeline id stay) =
            (Moment.publishedIn (Moment.timeline id stay)).length) := by
  refine ⟨⟨isPowerOfTwo_roundedSize _, roundedSize_bounds hcapacity⟩, fun calls =>
    ⟨fun payload answer => processed_of_mem, ?_⟩⟩
  intro past id stay rest hhistory hstays
  rw [List.append_assoc] at hhistory
  obtain ⟨before, following, -, -, hfollowing⟩ := history_eq_append hhistory
  obtain ⟨log, hlog⟩ := (logs_ofCapacity capacity).after before
  cases following with
  | nil => cases hfollowing
  | cons c following =>
    obtain ⟨hfirst, hothers⟩ := List.cons.inj hfollowing
    obtain ⟨rfl, hid⟩ := Prod.mk.inj hfirst
    obtain rfl : id = ((ofCapacity capacity).after before).subscribe.1 :=
      BusAnswer.subscribed.inj hid
    obtain ⟨staying, -, -, rfl, -⟩ := history_eq_append hothers.symm
    rw [map_fst_history] at hstays
    obtain ⟨hanswers, unread, hreads⟩ := hlog.subscribe.history hstays
    refine ⟨hanswers, unread, hreads, hreads.sublist, fun hlast => ?_⟩
    have hcount := hreads.conserves
    rw [hreads.left_eq_nil hlast] at hcount
    exact hcount.trans (Nat.zero_add _)

/-- A subscriber of a bus for one event misses the first of two. -/
theorem history_delivers_lagging :
    let refresh (entity : String) : BusCall := .process [("entity", entity),
      ("type", "com/vmware/vcloud/event/vc/refresh"), ("operationSuccess", "True")]
    let modified (entity : String) : Event := ⟨.modify, entity, true⟩
    let past : List BusCall := [refresh "a"]
    let stay : List BusCall := [.process [("type", "login")], refresh "b", .receive 0, refresh "c",
      .subscribe, refresh "d", .receive 0, .receive 0, .receive 0]
    let noticed : List Moment := [.published (modified "b"), .answered (.event (modified "b")),
      .published (modified "c"), .published (modified "d"), .answered (.lagged 1),
      .answered (.event (modified "d")), .answered .empty]
    Moment.timeline 0 (((ofCapacity 1).after (past ++ [.subscribe])).history stay) = noticed ∧
      (∃ unread, Reading 1 [] noticed unread ∧
        (Moment.receivedIn noticed ++ unread).Sublist (Moment.publishedIn noticed)) ∧
      (Moment.receivedIn noticed).length + Moment.missedIn noticed =
        (Moment.publishedIn noticed).length := by
  intro refresh modified past stay noticed
  let rest : List BusCall := [.unsubscribe 0, .receive 0]
  have hnoticed : Moment.timeline 0 (((ofCapacity 1).after (past ++ [.subscribe])).history stay) =
      noticed := by decide
  have hhistory : (ofCapacity 1).history (past ++ .subscribe :: stay ++ rest) =
      (ofCapacity 1).history past ++ (.subscribe, .subscribed 0) ::
        ((ofCapacity 1).after (past ++ [.subscribe])).history stay ++
        ((ofCapacity 1).after (past ++ .subscribe :: stay)).history rest := by decide
  obtain ⟨-, hcalls⟩ := @history_delivers 1 (by decide)
  obtain ⟨-, unread, hreads, hsublist, hcounts⟩ := (hcalls _).2 _ 0 _ _ hhistory (by decide)
  rw [hnoticed] at hreads hsublist hcounts
  exact ⟨hnoticed, ⟨unread, hreads, hsublist⟩, hcounts rfl⟩

end Bus

end CloudDirector
