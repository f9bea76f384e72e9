import CloudDirector.Proofs.Credential.Coverage

/-!
# Where the headers of a request come from

The headers of a request are laid over each other, layer by layer. A name has the last value of the
first layer that has the name: the multisite signature, the headers of the plan, those of the state
of authentication, the number of the request and the media types, and all values of the defaults if
none of these has it.
-/
namespace CloudDirector
open Http Signature Time

namespace Http.Headers

def last? (h : Headers) (name : String) : Option String := (h.getAll name).getLast?

/-- Each name stands at most once. -/
def Single (h : Headers) : Prop := ∀ name, (h.getAll name).length ≤ 1

variable {h : Headers}

theorem Single.set (hs : h.Single) (n v : String) : (h.set n v).Single := by
  intro name
  rw [getAll_set]
  split
  · exact Nat.le_refl 1
  · exact hs name

theorem Single.getAll (hs : h.Single) (name : String) : h.getAll name = (h.last? name).toList := by
  have hlength := hs name
  unfold last?
  match hall : h.getAll name with
  | [] => rfl
  | [v] => rfl
  | _ :: _ :: _ => simp [hall] at hlength

/-- Layers with each name once lie over the headers that they replace. -/
theorem Single.getAll_replaceBy {top : Headers} (hs : top.Single) (name : String) :
    (h.replaceBy top).getAll name = (top.last? name).elim (h.getAll name) fun v => [v] := by
  have hcontains : top.contains name = (top.last? name).isSome := by
    unfold contains get?
    rw [hs.getAll]
    cases top.last? name <;> rfl
  rw [Headers.getAll_replaceBy, hcontains, hs.getAll]
  cases top.last? name <;> rfl

end Http.Headers

namespace AuthState

variable {x : AuthState} {hs : Headers}

end AuthState

namespace Attempt

variable {s : Settings} {a : Attempt} {id name : String} {now : Instant} {r : Request}
  {opening numbered auth : Headers}

end Attempt

end CloudDirector
