import CloudDirector.Time.Instant

/-!
# The order of instants

Instants are in a total order, and cutting one to milliseconds never makes it later.
-/
namespace CloudDirector.Time.Instant

variable {a b c : Instant}

theorem atMost_iff :
    a.atMost b = true ↔ a.seconds < b.seconds ∨ a.seconds = b.seconds ∧ a.nanos ≤ b.nanos := by
  simp [atMost]

@[simp] theorem atMost_refl (a : Instant) : a.atMost a = true := by
  simp [atMost]

theorem atMost_trans (hab : a.atMost b = true) (hbc : b.atMost c = true) : a.atMost c = true := by
  rw [atMost_iff] at *
  omega

theorem atMost_antisymm (hab : a.atMost b = true) (hba : b.atMost a = true) : a = b := by
  obtain ⟨seconds, nanos⟩ := a
  obtain ⟨seconds', nanos'⟩ := b
  rw [atMost_iff] at *
  rw [mk.injEq]
  dsimp only at *
  omega

theorem atMost_total (a b : Instant) : a.atMost b = true ∨ b.atMost a = true := by
  rw [atMost_iff, atMost_iff]
  omega

theorem atMost_of_not (h : ¬ a.atMost b = true) : b.atMost a = true :=
  (atMost_total a b).resolve_left h

theorem truncateToMillis_atMost (t : Instant) : t.truncateToMillis.atMost t = true := by
  have hnanos : t.nanos / 1000000 * 1000000 ≤ t.nanos := Nat.div_mul_le_self _ _
  exact atMost_iff.2 (.inr ⟨rfl, hnanos⟩)

end CloudDirector.Time.Instant
