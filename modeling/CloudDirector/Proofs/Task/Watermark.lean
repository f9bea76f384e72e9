import CloudDirector.Proofs.Time.Instant
import CloudDirector.Task.Watermark

/-!
# What watermarks are told

Starts leave the earliest of them, and no watermark until it is read. From then on it is that start,
or an end to which it has moved.
-/
namespace CloudDirector.Watermark
open Time

variable {starts : List Instant} {w : Watermark}

/-- A watermark that was told starts and has not been read. -/
structure Tells (starts : List Instant) (w : Watermark) : Prop where
  mark : w.mark = none
  earliest : ∀ start ∈ starts, ∃ first, w.earliestStart = some first ∧ first.atMost start = true
  told : ∀ first, w.earliestStart = some first → first ∈ starts

namespace Tells

theorem empty : Tells [] empty where
  mark := rfl
  earliest start h := by cases h
  told first h := by cases h

/-- One more start is told; an unknown one tells nothing. -/
theorem tellStart (h : Tells starts w) (start : Option Instant) :
    Tells (starts ++ start.toList) (w.tellStart start) := by
  obtain ⟨earliestStart, mark⟩ := w
  obtain rfl : mark = none := h.mark
  cases start with
  | none => simpa using h
  | some start =>
    -- Every start is compared with the earliest of both.
    have hfirst (first : Instant) (hstart : first.atMost start = true)
        (hmem : first ∈ starts ++ [start])
        (hearlier : ∀ old, earliestStart = some old → first.atMost old = true) :
        Tells (starts ++ [start]) ⟨some first, none⟩ := by
      refine ⟨rfl, fun other hother => ⟨first, rfl, ?_⟩, fun other heq => ?_⟩
      · rcases List.mem_append.1 hother with hold | hnew
        · obtain ⟨old, hold, hle⟩ := h.earliest other hold
          exact Instant.atMost_trans (hearlier old hold) hle
        · rw [List.mem_singleton.1 hnew]
          exact hstart
      · cases heq
        exact hmem
    cases earliestStart with
    | none => exact hfirst start (Instant.atMost_refl _) (by simp) nofun
    | some old =>
      unfold Watermark.tellStart
      by_cases hold : old.atMost start = true
      · have hmem := List.mem_append_left [start] (h.told old rfl)
        simpa [hold] using hfirst old hold hmem fun _ heq => by cases heq; exact Instant.atMost_refl _
      · have hle := Instant.atMost_of_not hold
        simpa [hold] using hfirst start (Instant.atMost_refl _) (by simp) fun _ heq => by
          cases heq
          exact hle

end Tells

/-- A watermark that was told starts and has moved along ends: a mark that is set is the earliest
start or one of the ends. -/
structure IsMadeOf (starts ends : List Instant) (w : Watermark) : Prop where
  told : Tells starts { w with mark := none }
  marked : ∀ mark, w.mark = some mark → w.earliestStart ≠ none ∧
    (w.earliestStart = some mark ∨ mark ∈ ends)

namespace IsMadeOf

variable {ends : List Instant}

theorem empty : IsMadeOf [] ends empty where
  told := .empty
  marked mark h := by cases h

/-- What starts are told changes as if no mark were set. -/
theorem unmarked_tellStart (start : Option Instant) (w : Watermark) :
    { w.tellStart start with mark := none } = { w with mark := none }.tellStart start := by
  obtain ⟨earliestStart, mark⟩ := w
  cases start <;> cases earliestStart
  case some.some start earliest =>
    unfold Watermark.tellStart
    by_cases h : earliest.atMost start = true <;> simp [h]
  all_goals rfl

/-- A start either is not earlier than the others, or it discards the mark. -/
theorem tellStart (h : IsMadeOf starts ends w) (start : Option Instant) :
    IsMadeOf (starts ++ start.toList) ends (w.tellStart start) := by
  refine ⟨unmarked_tellStart start w ▸ h.told.tellStart start, fun mark hmark => ?_⟩
  obtain ⟨earliestStart, old⟩ := w
  cases start with
  | none => exact h.marked mark hmark
  | some start =>
    cases earliestStart with
    | none => cases hmark
    | some earliest =>
      unfold Watermark.tellStart at hmark ⊢
      by_cases hle : earliest.atMost start = true
      · simp only [hle, if_true] at hmark ⊢
        split at hmark
        · cases hmark
        · exact h.marked mark hmark
      · simp [hle] at hmark

/-- Reading tells nothing; a mark that is not set becomes the earliest start. -/
theorem settled (h : IsMadeOf starts ends w) : IsMadeOf starts ends w.settled where
  told := h.told
  marked mark hmark := by
    rcases Option.or_eq_some_iff.1 hmark with hset | ⟨-, hearliest⟩
    · exact h.marked mark hset
    · have hstart : w.settled.earliestStart = some mark := hearliest
      exact ⟨by simp [hstart], .inl hstart⟩

/-- No mark is read just if no start was told. -/
theorem settled_mark_eq_none (h : IsMadeOf starts ends w) :
    w.settled.mark = none ↔ starts = [] := by
  have hread : w.settled.mark = none ↔ w.mark = none ∧ w.earliestStart = none :=
    Option.or_eq_none_iff
  rw [hread]
  constructor
  · rintro ⟨-, hnone⟩
    refine List.eq_nil_iff_forall_not_mem.2 fun start hstart => ?_
    obtain ⟨first, hfirst, -⟩ := h.told.earliest start hstart
    cases hnone.symm.trans hfirst
  · rintro rfl
    have hnone : w.earliestStart = none :=
      Option.eq_none_iff_forall_ne_some.2 fun first hfirst =>
        List.not_mem_nil (h.told.told first hfirst)
    exact ⟨Option.eq_none_iff_forall_ne_some.2 fun mark hmark => (h.marked mark hmark).1 hnone,
      hnone⟩

/-- The mark that is read is the earliest start or an end. -/
theorem of_settled_mark (h : IsMadeOf starts ends w) {mark : Instant}
    (hmark : w.settled.mark = some mark) :
    (mark ∈ starts ∧ ∀ start ∈ starts, mark.atMost start = true) ∨ mark ∈ ends := by
  refine (h.settled.marked mark hmark).2.imp_left fun hearliest => ?_
  refine ⟨h.told.told mark hearliest, fun start hstart => ?_⟩
  obtain ⟨first, hfirst, hle⟩ := h.told.earliest start hstart
  obtain rfl : mark = first := Option.some.inj (hearliest.symm.trans hfirst)
  exact hle

end IsMadeOf

end CloudDirector.Watermark
