import CloudDirector.Http.Failure

/-!
# Retrying

After a failed attempt a classifier decides whether the request is sent again. Classifiers can be
combined; each has a limit, so that the attempts at a request are bounded.
-/
namespace CloudDirector

/-- How a failed attempt is treated. -/
inductive Classifier where
  /-- Retries denied requests up to `limit` times. -/
  | denied (limit : Nat)
  /-- Retries lost requests up to `attempts` attempts in all. -/
  | connection (attempts : Nat)
  /-- Retries if any of the classifiers does. -/
  | anyOf (parts : List Classifier)

namespace Classifier

/-- The classifier of clients that name no other: one retry. -/
def standard : Classifier := .denied 1

def isDenial (f : Failure) : Bool := (f.status?.map Http.Status.isDenied).getD false

mutual
/-- Whether the request is sent again after `attempt` attempts, the last of which failed. -/
def retries (f : Failure) (attempt : Nat) : Classifier → Bool
  | .denied limit => isDenial f && attempt ≤ limit
  | .connection attempts => f matches .lost && attempt < attempts
  | .anyOf parts => anyRetries f attempt parts

def anyRetries (f : Failure) (attempt : Nat) : List Classifier → Bool
  | [] => false
  | c :: cs => retries f attempt c || anyRetries f attempt cs
end

mutual
/-- No attempt after this one is ever retried. -/
def bound : Classifier → Nat
  | .denied limit => limit + 1
  | .connection attempts => max 1 attempts
  | .anyOf parts => boundOf parts

/-- The largest bound of some classifiers, at least one. -/
def boundOf : List Classifier → Nat
  | [] => 1
  | c :: cs => max (bound c) (boundOf cs)
end

end Classifier

end CloudDirector
