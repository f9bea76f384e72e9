import CloudDirector.Time.Calendar

/-!
# Instants

An instant is a count of seconds from 1 January 1970 in UTC and of nanoseconds within the
second. A leap second is a second whose nanoseconds run past a thousand million. Instants are
ordered by seconds, then nanoseconds.
-/
namespace CloudDirector.Time

structure Instant where
  seconds : Int
  nanos : Nat
  deriving DecidableEq, Repr, Inhabited

namespace Instant

def atMost (a b : Instant) : Bool :=
  a.seconds < b.seconds || (a.seconds == b.seconds && a.nanos ≤ b.nanos)

/-- Whether `a` is earlier than `b`. -/
def before (a b : Instant) : Bool := !b.atMost a

def nanosPerSecond : Nat := 1000000000

def date (t : Instant) : Date := Date.ofDays (Int.fdiv t.seconds secondsPerDay)

def secondOfDay (t : Instant) : Nat := (Int.fmod t.seconds secondsPerDay).toNat

/-- The instant with a precision of milliseconds, rounded down. -/
def truncateToMillis (t : Instant) : Instant := ⟨t.seconds, t.nanos / 1000000 * 1000000⟩

end Instant

end CloudDirector.Time
