import CloudDirector.Proofs.Task.Watermark
import Mathlib.Data.List.Induction

/-!
# Resets of a watermark

A start that is not later than any before it resets the watermark. What is read then is decided by
the calls since: it is the earliest start, until the watermark has been read and is moved.
-/
namespace CloudDirector.Watermark
open Time

/-- A call on a watermark. -/
inductive Call where
  | start (t : Option Instant)
  | moveTo (t : Instant)
  | read

def Call.perform (w : Watermark) : Call → Watermark
  | .start t => w.tellStart t
  | .moveTo t => w.moveTo (some t)
  | .read => w.read.2

def after (calls : List Call) : Watermark := calls.foldl Call.perform empty

theorem after_append (calls more : List Call) :
    after (calls ++ more) = more.foldl Call.perform (after calls) := List.foldl_append

@[simp] theorem after_concat (calls : List Call) (c : Call) :
    after (calls ++ [c]) = c.perform (after calls) := after_append calls [c]

def starts (calls : List Call) : List Instant :=
  calls.filterMap fun
    | .start t => t
    | _ => none

theorem starts_concat_start (calls : List Call) (t : Option Instant) :
    starts (calls ++ [.start t]) = starts calls ++ t.toList := by
  cases t <;> simp [starts]

@[simp] theorem starts_concat_moveTo (calls : List Call) (t : Instant) :
    starts (calls ++ [.moveTo t]) = starts calls := by
  simp [starts]

@[simp] theorem starts_concat_read (calls : List Call) :
    starts (calls ++ [.read]) = starts calls := by
  simp [starts]

/-- A start is not later than those that are given in calls. -/
def Resets (t : Instant) (past : List Call) : Prop := ∀ s ∈ starts past, t.atMost s = true

def IsEarliest (t : Instant) (ts : List Instant) : Prop := t ∈ ts ∧ ∀ s ∈ ts, t.atMost s = true

/-- The last start in calls that is not later than those before it, what stands before it, and the
calls since. -/
structure LastReset (calls past : List Call) (t : Instant) (since : List Call) : Prop where
  split : calls = past ++ .start (some t) :: since
  resets : Resets t past
  last : ∀ front u back, since = front ++ .start (some u) :: back →
    ¬ Resets u (past ++ .start (some t) :: front)

def MovesLast (calls : List Call) (t : Instant) : Prop :=
  ∃ front back, calls = front ++ .moveTo t :: back ∧ .read ∈ front ∧ ∀ u, .moveTo u ∉ back

theorem of_concat_eq_append_cons {α : Type} {xs front back : List α} {x y : α}
    (h : xs ++ [x] = front ++ y :: back) :
    xs = front ∧ x = y ∧ back = [] ∨ ∃ rest, xs = front ++ y :: rest ∧ back = rest ++ [x] := by
  rcases List.eq_nil_or_concat back with rfl | ⟨rest, z, rfl⟩
  · obtain ⟨hfront, hlast⟩ := List.append_inj' h rfl
    exact .inl ⟨hfront, List.head_eq_of_cons_eq hlast, rfl⟩
  · rw [List.concat_eq_append, ← List.cons_append, ← List.append_assoc] at h
    obtain ⟨hfront, hlast⟩ := List.append_inj' h rfl
    obtain rfl := List.head_eq_of_cons_eq hlast
    exact .inr ⟨rest, hfront, List.concat_eq_append⟩

theorem movesLast_concat_moveTo {calls : List Call} {t u : Instant} :
    MovesLast (calls ++ [.moveTo t]) u ↔ .read ∈ calls ∧ t = u := by
  constructor
  · rintro ⟨front, back, hsplit, hread, hno⟩
    obtain ⟨rfl, heq, -⟩ | ⟨rest, -, rfl⟩ := of_concat_eq_append_cons hsplit
    · exact ⟨hread, Call.moveTo.inj heq⟩
    · exact absurd (by simp) (hno t)
  · rintro ⟨hread, rfl⟩
    exact ⟨calls, [], rfl, hread, by simp⟩

theorem movesLast_concat_of_ne {calls : List Call} {c : Call} (hc : ∀ t, c ≠ .moveTo t)
    {u : Instant} : MovesLast (calls ++ [c]) u ↔ MovesLast calls u := by
  constructor
  · rintro ⟨front, back, hsplit, hread, hno⟩
    obtain ⟨-, heq, -⟩ | ⟨rest, hrest, rfl⟩ := of_concat_eq_append_cons hsplit
    · exact absurd heq (hc u)
    · exact ⟨front, rest, hrest, hread, fun v hv => hno v (List.mem_append_left _ hv)⟩
  · rintro ⟨front, back, rfl, hread, hno⟩
    refine ⟨front, back ++ [c], by simp, hread, fun v hv => ?_⟩
    rcases List.mem_append.1 hv with hv | hv
    · exact hno v hv
    · exact hc v (List.mem_singleton.1 hv).symm

theorem MovesLast.read_mem {calls : List Call} {t : Instant} (h : MovesLast calls t) :
    .read ∈ calls := by
  obtain ⟨front, back, rfl, hread, -⟩ := h
  exact List.mem_append_left _ hread

/-- The watermark knows the starts that were given, whether or not it is set. -/
theorem tells_after (calls : List Call) :
    Tells (starts calls) { after calls with mark := none } := by
  induction calls using List.reverseRecOn with
  | nil => exact .empty
  | append_singleton calls c ih =>
    rw [after_concat]
    cases c with
    | start t =>
      rw [starts_concat_start]
      exact IsMadeOf.unmarked_tellStart t (after calls) ▸ ih.tellStart t
    | moveTo t =>
      rw [starts_concat_moveTo]
      have hmove : { (after calls).moveTo (some t) with mark := none } =
          { after calls with mark := none } := by
        unfold moveTo
        split <;> rfl
      exact hmove ▸ ih
    | read =>
      rw [starts_concat_read]
      exact ih

theorem isEarliest_of_earliestStart {calls : List Call} {t : Instant}
    (h : (after calls).earliestStart = some t) : IsEarliest t (starts calls) := by
  refine ⟨(tells_after calls).told t h, fun s hs => ?_⟩
  obtain ⟨first, hfirst, hle⟩ := (tells_after calls).earliest s hs
  obtain rfl : t = first := Option.some.inj (h.symm.trans hfirst)
  exact hle

theorem IsEarliest.unique {t u : Instant} {ts : List Instant} (ht : IsEarliest t ts)
    (hu : IsEarliest u ts) : t = u :=
  Instant.atMost_antisymm (ht.2 u hu.1) (hu.2 t ht.1)

/-- A reset leaves the earliest start, and no mark. -/
theorem after_reset {past : List Call} {t : Instant} (h : Resets t past) :
    after (past ++ [.start (some t)]) = ⟨some t, none⟩ := by
  have hearliest (first : Instant) (hfirst : (after past).earliestStart = some first) :
      t.atMost first = true := h first ((tells_after past).told first hfirst)
  rw [after_concat]
  generalize after past = w at hearliest ⊢
  obtain ⟨earliestStart, mark⟩ := w
  cases earliestStart with
  | none => rfl
  | some first =>
    unfold Call.perform tellStart
    by_cases hfirst : first.atMost t = true
    · obtain rfl := Instant.atMost_antisymm hfirst (hearliest first rfl)
      simp
    · simp [hfirst]

/-- A watermark on which calls were made since a reset: it was set when it was read, and is where it
was moved last since then. -/
structure Since (t : Instant) (since : List Call) (w : Watermark) : Prop where
  earliest : w.earliestStart = some t
  marked : ∀ mark, w.mark = some mark ↔
    MovesLast since mark ∨ .read ∈ since ∧ (∀ u, ¬ MovesLast since u) ∧ t = mark

namespace Since

variable {t : Instant} {since : List Call} {w : Watermark}

theorem nil (t : Instant) : Since t [] ⟨some t, none⟩ where
  earliest := rfl
  marked mark := by
    constructor
    · nofun
    · rintro (hmoves | ⟨hread, -⟩)
      · cases hmoves.read_mem
      · cases hread

/-- A mark is set just if the watermark has been read. -/
theorem isSome_mark_iff (h : Since t since w) : w.mark.isSome = true ↔ .read ∈ since := by
  rw [Option.isSome_iff_exists]
  constructor
  · rintro ⟨mark, hmark⟩
    rcases (h.marked mark).1 hmark with hmoves | ⟨hread, -⟩
    · exact hmoves.read_mem
    · exact hread
  · intro hread
    by_cases hmoves : ∃ u, MovesLast since u
    · obtain ⟨u, hu⟩ := hmoves
      exact ⟨u, (h.marked u).2 (.inl hu)⟩
    · exact ⟨t, (h.marked t).2 (.inr ⟨hread, not_exists.1 hmoves, rfl⟩)⟩

/-- A start that is later than the last reset changes nothing. -/
theorem start (h : Since t since w) {u : Option Instant} (hu : ∀ v ∈ u, ¬ v.atMost t = true) :
    Since t (since ++ [.start u]) (w.tellStart u) := by
  have hkept : w.tellStart u = w := by
    obtain ⟨earliestStart, mark⟩ := w
    obtain rfl : earliestStart = some t := h.earliest
    cases u with
    | none => rfl
    | some v =>
      have hlater := hu v rfl
      have hne : t ≠ v := by
        rintro rfl
        exact hlater (Instant.atMost_refl t)
      simp [tellStart, Instant.atMost_of_not hlater, hne]
  rw [hkept]
  refine ⟨h.earliest, fun mark => ?_⟩
  simp only [movesLast_concat_of_ne (c := .start u) nofun, List.mem_append, List.mem_singleton,
    reduceCtorEq, or_false]
  exact h.marked mark

theorem moveTo (h : Since t since w) (u : Instant) :
    Since t (since ++ [.moveTo u]) (w.moveTo (some u)) := by
  unfold Watermark.moveTo
  by_cases hread : .read ∈ since
  · rw [if_pos (h.isSome_mark_iff.2 hread)]
    refine ⟨h.earliest, fun mark => ?_⟩
    rw [movesLast_concat_moveTo]
    constructor
    · intro hmark
      exact .inl ⟨hread, Option.some.inj hmark⟩
    · rintro (⟨-, rfl⟩ | ⟨-, hno, -⟩)
      · rfl
      · exact absurd (movesLast_concat_moveTo.2 ⟨hread, rfl⟩) (hno u)
  · have hunset : ¬ w.mark.isSome = true := mt h.isSome_mark_iff.1 hread
    rw [if_neg hunset]
    refine ⟨h.earliest, fun mark => ?_⟩
    rw [movesLast_concat_moveTo]
    constructor
    · intro hmark
      exact absurd (Option.isSome_iff_exists.2 ⟨mark, hmark⟩) hunset
    · rintro (⟨hmem, -⟩ | ⟨hmem, -⟩)
      · exact absurd hmem hread
      · exact absurd (by simpa using hmem) hread

theorem settled (h : Since t since w) : Since t (since ++ [.read]) w.settled := by
  refine ⟨h.earliest, fun mark => ?_⟩
  simp only [movesLast_concat_of_ne (c := .read) nofun]
  by_cases hread : .read ∈ since
  · obtain ⟨old, hold⟩ := Option.isSome_iff_exists.1 (h.isSome_mark_iff.2 hread)
    have hkept : w.settled.mark = w.mark := by simp [Watermark.settled, hold]
    rw [hkept, h.marked mark]
    simp [hread]
  · have hnone : w.mark = none := Option.not_isSome_iff_eq_none.1 (mt h.isSome_mark_iff.1 hread)
    have hfirst : w.settled.mark = some t := by simp [Watermark.settled, hnone, h.earliest]
    have hno (u : Instant) : ¬ MovesLast since u := fun hu => hread hu.read_mem
    rw [hfirst]
    simp [hno]

end Since

namespace LastReset

variable {calls past since : List Call} {t : Instant} {c : Call}

theorem concat (h : LastReset calls past t since)
    (hc : ∀ u, c = .start (some u) → ¬ Resets u calls) :
    LastReset (calls ++ [c]) past t (since ++ [c]) where
  split := by simp [h.split]
  resets := h.resets
  last front u back heq := by
    obtain ⟨rfl, hstart, -⟩ | ⟨rest, hrest, -⟩ := of_concat_eq_append_cons heq
    · rw [← h.split]
      exact hc u hstart
    · exact h.last front u rest hrest

/-- What the calls since the last reset have made of the watermark. The induction is on these calls,
the newest of which comes last. -/
theorem since_after (h : LastReset calls past t since) : Since t since (after calls) := by
  obtain ⟨rfl, hresets, hlast⟩ := h
  induction since using List.reverseRecOn with
  | nil =>
    rw [after_reset hresets]
    exact .nil t
  | append_singleton since c ih =>
    have hsince := ih fun front u back heq => hlast front u (back ++ [c]) (by simp [heq])
    rw [← List.cons_append, ← List.append_assoc, after_concat]
    cases c with
    | start u =>
      apply hsince.start
      -- A start that is not later than the reset is a reset itself.
      rintro v rfl hle
      refine hlast since v [] rfl fun s hs => ?_
      exact Instant.atMost_trans hle ((isEarliest_of_earliestStart hsince.earliest).2 s hs)
    | moveTo u => exact hsince.moveTo u
    | read => exact hsince.settled

theorem isEarliest (h : LastReset calls past t since) : IsEarliest t (starts calls) :=
  isEarliest_of_earliestStart h.since_after.earliest

theorem read_eq_some_iff (h : LastReset calls past t since) {mark : Instant} :
    (after calls).read.1 = some mark ↔
      MovesLast since mark ∨ (∀ u, ¬ MovesLast since u) ∧ t = mark := by
  have hmarked := h.since_after.settled.marked mark
  simp only [movesLast_concat_of_ne (c := .read) nofun, List.mem_append, List.mem_singleton,
    or_true, true_and] at hmarked
  exact hmarked

end LastReset

theorem exists_lastReset {calls : List Call} (h : starts calls ≠ []) :
    ∃ past t since, LastReset calls past t since := by
  induction calls using List.reverseRecOn with
  | nil => exact absurd rfl h
  | append_singleton calls c ih =>
    by_cases hc : ∃ t, c = .start (some t) ∧ Resets t calls
    · obtain ⟨t, rfl, hresets⟩ := hc
      exact ⟨calls, t, [], rfl, hresets, by simp⟩
    · have hstarts : starts calls ≠ [] := by
        intro hnone
        have hresets (t : Instant) : Resets t calls := by simp [Resets, hnone]
        cases c with
        | start t =>
          cases t with
          | none => exact h (by simp [starts_concat_start, hnone])
          | some t => exact hc ⟨t, rfl, hresets t⟩
        | moveTo t => exact h (by simp [hnone])
        | read => exact h (by simp [hnone])
      obtain ⟨past, t, since, hlast⟩ := ih hstarts
      exact ⟨past, t, since ++ [c], hlast.concat fun u hu hresets => hc ⟨u, hu, hresets⟩⟩

theorem after_of_no_start {calls : List Call} (h : starts calls = []) : after calls = empty := by
  induction calls using List.reverseRecOn with
  | nil => rfl
  | append_singleton calls c ih =>
    rw [after_concat]
    cases c with
    | start t =>
      rw [starts_concat_start, List.append_eq_nil_iff, Option.toList_eq_nil_iff] at h
      obtain ⟨hcalls, rfl⟩ := h
      rw [ih hcalls]
      rfl
    | moveTo t =>
      rw [ih (by simpa using h)]
      rfl
    | read =>
      rw [ih (by simpa using h)]
      rfl

theorem mark_tellStart {w : Watermark} (hw : w.mark = none) (t : Option Instant) :
    (w.tellStart t).mark = none := by
  obtain ⟨earliestStart, mark⟩ := w
  obtain rfl : mark = none := hw
  cases t <;> cases earliestStart
  case some.some => simp only [tellStart, ite_self, apply_ite Watermark.mark]
  all_goals rfl

theorem moveTo_of_unset {w : Watermark} (hw : w.mark = none) (t : Option Instant) :
    w.moveTo t = w := by
  simp [moveTo, hw]

/-- A watermark that is not set stays so until it is read. -/
theorem mark_of_unread {calls : List Call} {w : Watermark} (hw : w.mark = none)
    (h : .read ∉ calls) : (calls.foldl Call.perform w).mark = none := by
  induction calls generalizing w with
  | nil => exact hw
  | cons c calls ih =>
    obtain ⟨hfirst, hmore⟩ := not_or.1 (mt List.mem_cons.2 h)
    refine ih ?_ hmore
    cases c with
    | start t => exact mark_tellStart hw t
    | moveTo t =>
      change (w.moveTo (some t)).mark = none
      rw [moveTo_of_unset hw, hw]
    | read => exact absurd rfl hfirst

/-- What is read is nothing as long as no start was given. After that it is where the watermark was
moved last behind a read since the last reset, or else the earliest start that was given. No move
changes anything between a reset and the next read. -/
theorem read_after (calls : List Call) :
    ((after calls).read.1 = none ↔ starts calls = []) ∧
    (∀ mark, (after calls).read.1 = some mark ↔ ∃ past t since, LastReset calls past t since ∧
      (MovesLast since mark ∨ (∀ u, ¬ MovesLast since u) ∧ IsEarliest mark (starts calls))) ∧
    ∀ past t since u, calls = past ++ .start (some t) :: since → Resets t past → .read ∉ since →
      after (calls ++ [.moveTo u]) = after calls := by
  have hnone : starts calls = [] → (after calls).read.1 = none := by
    intro hstarts
    rw [after_of_no_start hstarts, read_empty]
  refine ⟨⟨fun hread => ?_, hnone⟩, fun mark => ⟨fun hread => ?_, ?_⟩, ?_⟩
  · by_contra hstarts
    obtain ⟨past, t, since, hlast⟩ := exists_lastReset hstarts
    have hset : (after calls).settled.mark.isSome = true :=
      hlast.since_after.settled.isSome_mark_iff.2 (by simp)
    rw [show (after calls).settled.mark = none from hread] at hset
    cases hset
  · have hstarts : starts calls ≠ [] := fun h => by simp [hnone h] at hread
    obtain ⟨past, t, since, hlast⟩ := exists_lastReset hstarts
    refine ⟨past, t, since, hlast, ?_⟩
    refine (hlast.read_eq_some_iff.1 hread).imp_right fun ⟨hno, heq⟩ => ⟨hno, ?_⟩
    exact heq ▸ hlast.isEarliest
  · rintro ⟨past, t, since, hlast, h⟩
    exact hlast.read_eq_some_iff.2 (h.imp_right fun ⟨hno, hearliest⟩ =>
      ⟨hno, hlast.isEarliest.unique hearliest⟩)
  · rintro past t since u rfl hresets hread
    rw [after_concat]
    apply moveTo_of_unset
    have hreset : (after (past ++ [.start (some t)])).mark = none := by rw [after_reset hresets]
    have hunread := mark_of_unread hreset hread
    rwa [← after_append, List.append_assoc] at hunread

/-- A watermark was read at a start, and an earlier start is given: the end that is found meanwhile
is dropped. -/
theorem read_after_late_move :
    Resets ⟨5, 0⟩ [.start (some ⟨10, 0⟩), .read] ∧
    after [.start (some ⟨10, 0⟩), .read, .start (some ⟨5, 0⟩), .moveTo ⟨40, 0⟩] =
      after [.start (some ⟨10, 0⟩), .read, .start (some ⟨5, 0⟩)] ∧
    (after [.start (some ⟨10, 0⟩), .read, .start (some ⟨5, 0⟩), .moveTo ⟨40, 0⟩]).read.1 =
      some ⟨5, 0⟩ := by
  have hresets : Resets ⟨5, 0⟩ [.start (some ⟨10, 0⟩), .read] := by
    intro s hs
    obtain rfl : s = ⟨10, 0⟩ := by simpa [starts] using hs
    rfl
  exact ⟨hresets, (read_after _).2.2 [.start (some ⟨10, 0⟩), .read] ⟨5, 0⟩ [] ⟨40, 0⟩ rfl hresets
    List.not_mem_nil, by decide⟩

end CloudDirector.Watermark
