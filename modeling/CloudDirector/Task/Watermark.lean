import CloudDirector.Time.Instant

/-!
# Watermarks

The instant from which ended tasks are asked for. It begins at the earliest start of the tasks
that are watched and moves with the ends that are found. A start that is not later than all
others discards it, as such a task may have ended before it.
-/
namespace CloudDirector
open Time

structure Watermark where
  earliestStart : Option Instant
  mark : Option Instant
  deriving DecidableEq, Repr, Inhabited

namespace Watermark

def empty : Watermark := ⟨none, none⟩

/-- Tells the start of a task; an unknown start tells nothing. -/
def tellStart (start : Option Instant) (w : Watermark) : Watermark :=
  match start, w.earliestStart with
  | none, _ => w
  | some t, none => ⟨some t, none⟩
  | some t, some earliest =>
    if earliest.atMost t then ⟨some earliest, if earliest = t then none else w.mark⟩
    else ⟨some t, none⟩

/-- Moves the watermark, unless it was discarded and has not been read since. -/
def moveTo (t : Option Instant) (w : Watermark) : Watermark :=
  if w.mark.isSome then { w with mark := t } else w

/-- The watermark after it was read: one that is not set is the earliest start. -/
def settled (w : Watermark) : Watermark := { w with mark := w.mark.or w.earliestStart }

def read (w : Watermark) : Option Instant × Watermark := (w.settled.mark, w.settled)

@[simp] theorem read_empty : empty.read = (none, empty) := rfl

@[simp] theorem tellStart_none (w : Watermark) : w.tellStart none = w := rfl

@[simp] theorem settled_settled (w : Watermark) : w.settled.settled = w.settled := by
  cases h : w.mark <;> cases h' : w.earliestStart <;> simp [settled, h, h']

end Watermark

end CloudDirector
