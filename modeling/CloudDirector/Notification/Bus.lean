import CloudDirector.Notification.Event

/-!
# Event bus

A bus keeps the last events that were published, up to its size, which is a power of two. Each
subscriber reads the events after its subscription at its own pace. One that has fallen behind
is told once how many events it has missed and goes on with the oldest that is kept.
-/
namespace CloudDirector

/-- The least power of two that is at least `n`, the first being one. -/
def roundedSize (n : Nat) : Nat := if n ≤ 1 then 1 else 1 <<< ((n - 1).log2 + 1)

/-- A bus: its size, the number of all events published, those that it keeps, the oldest first,
and how many events were published before what each subscriber reads next. -/
structure Bus where
  size : Nat
  published : Nat
  kept : List Event
  /-- Subscribers by their numbers; one who has left has no position. -/
  positions : List (Option Nat)
  deriving DecidableEq, Repr, Inhabited

inductive Received where
  | event (e : Event)
  | empty
  /-- So many events were missed. -/
  | lagged (missed : Nat)
  deriving DecidableEq, Repr, Inhabited

namespace Bus

def standardSize : Nat := 64

def ofCapacity (capacity : Nat) : Bus := ⟨roundedSize capacity, 0, [], []⟩

def standard : Bus := ofCapacity standardSize

def subscribe (b : Bus) : Nat × Bus :=
  (b.positions.length, { b with positions := b.positions ++ [some b.published] })

/-- A subscriber leaves. -/
def unsubscribe (b : Bus) (id : Nat) : Bus := { b with positions := b.positions.set id none }

def position? (b : Bus) (id : Nat) : Option Nat := b.positions[id]?.join

def moveTo (b : Bus) (id position : Nat) : Bus :=
  { b with positions := b.positions.set id (some position) }

def publish (b : Bus) (e : Event) : Bus :=
  { b with
    published := b.published + 1
    kept := (b.kept ++ [e]).drop (b.kept.length + 1 - b.size) }

/-- The number of events before the oldest one that is kept. -/
def oldest (b : Bus) : Nat := b.published - b.kept.length

/-- What a subscriber receives, none if there is no such subscriber. -/
def receive? (b : Bus) (id : Nat) : Option (Received × Bus) := do
  let position ← b.position? id
  if position < b.oldest then
    some (.lagged (b.oldest - position), b.moveTo id b.oldest)
  else
    match b.kept[position - b.oldest]? with
    | some e => some (.event e, b.moveTo id (position + 1))
    | none => some (.empty, b)

/-- Handles the payload of a message: an event that it reports is published. -/
def process (b : Bus) (payload : List (String × String)) : Option Event × Bus :=
  match (Notification.ofPayload? payload).bind Event.ofNotification? with
  | some e => (some e, b.publish e)
  | none => (none, b)

end Bus

end CloudDirector
