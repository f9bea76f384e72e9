import CloudDirector.Keyed
import Mathlib.Data.List.Nodup

/-!
# Reading keyed lists

What is found in a keyed list after values were set and keys were removed. Both keep the order of
keys, so that each key of a list that was built in this way stands for one value, and the list is
known by what is found in it.
-/
namespace CloudDirector.Keyed

variable {α : Type}

theorem lookup_insert_eq_some {key k : String} {v w : α} {ms : List (String × α)} :
    (insert key v ms).lookup k = some w ↔
      (k = key ∧ w = v) ∨ (k ≠ key ∧ ms.lookup k = some w) := by
  by_cases hk : k = key
  · subst hk
    simp [lookup_insert_self, eq_comm]
  · simp [lookup_insert_ne hk, hk]

theorem mem_of_lookup {ms : List (String × α)} {k : String} {w : α} (h : ms.lookup k = some w) :
    (k, w) ∈ ms := by
  obtain ⟨before, after, rfl, -⟩ := List.lookup_eq_some_iff.1 h
  exact List.mem_append_right before List.mem_cons_self

theorem lookup_eq_none {ms : List (String × α)} {k : String} :
    ms.lookup k = none ↔ k ∉ ms.map Prod.fst := by
  rw [List.lookup_eq_none_iff]
  constructor
  · intro h hmem
    obtain ⟨p, hp, rfl⟩ := List.mem_map.1 hmem
    simpa using h p hp
  · intro h p hp
    exact bne_iff_ne.2 fun hk => h (List.mem_map.2 ⟨p, hp, hk.symm⟩)

theorem mem_of_lookup_ofList {pairs : List (String × α)} {k : String} {w : α}
    (h : (ofList pairs).lookup k = some w) : (k, w) ∈ pairs := by
  have step : ∀ (pairs ms : List (String × α)),
      (pairs.foldl (fun ms p => insert p.1 p.2 ms) ms).lookup k = some w →
        (k, w) ∈ pairs ∨ ms.lookup k = some w := by
    intro pairs
    induction pairs with
    | nil => exact fun ms h => .inr h
    | cons p pairs ih =>
      intro ms h
      rcases ih _ h with hmem | hlookup
      · exact .inl (List.mem_cons_of_mem _ hmem)
      · rcases lookup_insert_eq_some.1 hlookup with ⟨rfl, rfl⟩ | ⟨-, hlookup⟩
        · exact .inl List.mem_cons_self
        · exact .inr hlookup
  rcases step pairs [] h with hmem | hnone
  · exact hmem
  · simp at hnone

theorem lookup_erase_self (key : String) (ms : List (String × α)) :
    (erase key ms).lookup key = none := by
  rw [List.lookup_eq_none_iff]
  intro p hp
  have hne := (List.mem_filter.1 hp).2
  rw [bne_comm]
  exact hne

theorem lookup_erase_ne {key other : String} (h : other ≠ key) (ms : List (String × α)) :
    (erase key ms).lookup other = ms.lookup other := by
  unfold erase
  induction ms with
  | nil => rfl
  | cons m ms ih =>
    obtain ⟨k, w⟩ := m
    by_cases hk : k = key
    · have ho : (other == k) = false := by simpa [hk] using h
      rw [List.filter_cons_of_neg (by simpa using hk), ih, List.lookup_cons, ho]
    · rw [List.filter_cons_of_pos (by simpa using hk), List.lookup_cons, List.lookup_cons, ih]

theorem lookup_erase_eq_some {key k : String} {w : α} {ms : List (String × α)} :
    (erase key ms).lookup k = some w ↔ k ≠ key ∧ ms.lookup k = some w := by
  by_cases hk : k = key
  · subst hk
    simp [lookup_erase_self]
  · simp [lookup_erase_ne hk, hk]

theorem contains_insert {key k : String} {v : α} {ms : List (String × α)} :
    contains k (insert key v ms) = true ↔ k = key ∨ contains k ms = true := by
  unfold contains
  by_cases hk : k = key
  · subst hk
    simp [lookup_insert_self]
  · simp [lookup_insert_ne hk, hk]

theorem contains_erase {key k : String} {ms : List (String × α)} :
    contains k (erase key ms) = true ↔ k ≠ key ∧ contains k ms = true := by
  unfold contains
  by_cases hk : k = key
  · subst hk
    simp [lookup_erase_self]
  · simp [lookup_erase_ne hk, hk]

theorem lookup_map {β : Type} (f : α → β) (ms : List (String × α)) (key : String) :
    (ms.map fun m => (m.1, f m.2)).lookup key = (ms.lookup key).map f := by
  induction ms with
  | nil => rfl
  | cons m ms ih =>
    rw [List.map_cons, List.lookup_cons, List.lookup_cons, ih]
    cases key == m.1 <;> rfl

theorem lookup_filter (p : String → Bool) (ms : List (String × α)) (key : String) :
    (ms.filter fun m => p m.1).lookup key = if p key then ms.lookup key else none := by
  induction ms with
  | nil => simp
  | cons m ms ih =>
    obtain ⟨k, w⟩ := m
    by_cases hk : key = k
    · subst hk
      by_cases hp : p key = true <;> simp [hp, ih]
    · have hbeq : (key == k) = false := by simpa using hk
      by_cases hp : p k = true <;> simp [hp, ih, List.lookup_cons, hbeq]

theorem lookup_of_mem {pairs : List (String × α)} (h : (pairs.map Prod.fst).Nodup) {k : String}
    {w : α} (hmem : (k, w) ∈ pairs) : pairs.lookup k = some w := by
  induction pairs with
  | nil => cases hmem
  | cons p pairs ih =>
    obtain ⟨hfirst, hrest⟩ := List.nodup_cons.1 h
    rw [List.lookup_cons]
    rcases List.mem_cons.1 hmem with rfl | hmem
    · simp
    · have hne : k ≠ p.1 := by
        intro hk
        exact hfirst (List.mem_map.2 ⟨(k, w), hmem, hk⟩)
      have hbeq : (k == p.1) = false := by simpa using hne
      rw [hbeq]
      exact ih hrest hmem

/-- The last value of a key counts. -/
theorem lookup_ofList (pairs : List (String × α)) (k : String) :
    (ofList pairs).lookup k = pairs.reverse.lookup k := by
  have step : ∀ ms : List (String × α),
      (pairs.foldl (fun ms p => insert p.1 p.2 ms) ms).lookup k =
        (pairs.reverse.lookup k).or (ms.lookup k) := by
    induction pairs with
    | nil => exact fun ms => rfl
    | cons p pairs ih =>
      intro ms
      rw [List.foldl_cons, ih, List.reverse_cons, List.lookup_append, Option.or_assoc]
      obtain ⟨key, v⟩ := p
      congr 1
      by_cases hk : k = key
      · subst hk
        simp [lookup_insert_self]
      · have hbeq : (k == key) = false := by simpa using hk
        simp [lookup_insert_ne hk, List.lookup_cons, hbeq]
  exact (step []).trans (Option.or_none)

theorem lookup_ofList_of_nodup {pairs : List (String × α)} (h : (pairs.map Prod.fst).Nodup)
    (k : String) : (ofList pairs).lookup k = pairs.lookup k := by
  have hreverse : (pairs.reverse.map Prod.fst).Nodup := by
    rw [List.map_reverse]
    exact List.nodup_reverse.2 h
  rw [lookup_ofList]
  ext w
  constructor
  · intro hw
    exact lookup_of_mem h (List.mem_reverse.1 (mem_of_lookup hw))
  · intro hw
    exact lookup_of_mem hreverse (List.mem_reverse.2 (mem_of_lookup hw))

instance (ms : List (String × α)) : Decidable (Ascending ms) :=
  inferInstanceAs (Decidable ((ms.map Prod.fst).Pairwise (· < ·)))

namespace Ascending

theorem nil : Ascending ([] : List (String × α)) := List.Pairwise.nil

private theorem fst_mem_insert {key k : String} {v : α} {ms : List (String × α)}
    (h : k ∈ (Keyed.insert key v ms).map Prod.fst) : k = key ∨ k ∈ ms.map Prod.fst := by
  induction ms with
  | nil => exact .inl (by simpa [Keyed.insert] using h)
  | cons m ms ih =>
    obtain ⟨k', w⟩ := m
    unfold Keyed.insert at h
    split at h
    case isTrue heq =>
      rcases List.mem_cons.1 h with hk | hk
      · exact .inl hk
      · exact .inr (List.mem_cons_of_mem _ hk)
    case isFalse hne =>
      split at h
      case isTrue hlt =>
        rcases List.mem_cons.1 h with hk | hk
        · exact .inl hk
        · exact .inr hk
      case isFalse hge =>
        rcases List.mem_cons.1 h with hk | hk
        · exact .inr (hk ▸ List.mem_cons_self)
        · rcases ih hk with hk | hk
          · exact .inl hk
          · exact .inr (List.mem_cons_of_mem _ hk)

theorem insert {ms : List (String × α)} (h : Ascending ms) (key : String) (v : α) :
    Ascending (Keyed.insert key v ms) := by
  induction ms with
  | nil => exact List.pairwise_singleton _ _
  | cons m ms ih =>
    obtain ⟨k, w⟩ := m
    obtain ⟨hfirst, hrest⟩ := List.pairwise_cons.1 h
    unfold Keyed.insert
    split
    case isTrue heq =>
      subst heq
      exact h
    case isFalse hne =>
      split
      case isTrue hlt =>
        refine List.pairwise_cons.2 ⟨fun k' hk' => ?_, h⟩
        rcases List.mem_cons.1 hk' with rfl | hk'
        · exact hlt
        · exact String.lt_trans hlt (hfirst k' hk')
      case isFalse hge =>
        have hlt : k < key := by
          rw [← String.not_le]
          exact fun hle => hne (String.le_antisymm hle (String.not_lt.1 hge))
        refine List.pairwise_cons.2 ⟨fun k' hk' => ?_, ih hrest⟩
        rcases fst_mem_insert hk' with rfl | hk'
        · exact hlt
        · exact hfirst k' hk'

theorem ofList (pairs : List (String × α)) : Ascending (Keyed.ofList pairs) := by
  have step : ∀ ms : List (String × α), Ascending ms →
      Ascending (pairs.foldl (fun ms p => Keyed.insert p.1 p.2 ms) ms) := by
    induction pairs with
    | nil => exact fun ms h => h
    | cons p pairs ih => exact fun ms h => ih _ (h.insert p.1 p.2)
  exact step [] nil

theorem filter {ms : List (String × α)} (h : Ascending ms) (p : String × α → Bool) :
    Ascending (ms.filter p) :=
  List.Pairwise.sublist ((List.filter_sublist ..).map Prod.fst) h

theorem erase {ms : List (String × α)} (h : Ascending ms) (key : String) :
    Ascending (Keyed.erase key ms) :=
  h.filter _

theorem nodup {ms : List (String × α)} (h : Ascending ms) : (ms.map Prod.fst).Nodup :=
  h.imp fun hlt => String.ne_of_lt hlt

/-- What is in an ordered list is what is found in it. -/
theorem mem_iff {ms : List (String × α)} (h : Ascending ms) {k : String} {w : α} :
    (k, w) ∈ ms ↔ ms.lookup k = some w :=
  ⟨lookup_of_mem h.nodup, mem_of_lookup⟩

/-- Ordered lists in which the same is found are the same. -/
theorem ext {a b : List (String × α)} (ha : Ascending a) (hb : Ascending b)
    (h : ∀ k, a.lookup k = b.lookup k) : a = b := by
  have hperm : a.Perm b := by
    rw [List.perm_ext_iff_of_nodup (List.Nodup.of_map _ ha.nodup) (List.Nodup.of_map _ hb.nodup)]
    rintro ⟨k, w⟩
    rw [ha.mem_iff, hb.mem_iff, h]
  refine hperm.eq_of_pairwise ?_ (List.pairwise_map.1 ha) (List.pairwise_map.1 hb)
  intro x y _ _ hxy hyx
  exact absurd (String.lt_trans hxy hyx) (String.lt_irrefl x.1)

theorem ofList_eq {ms : List (String × α)} (h : Ascending ms) : Keyed.ofList ms = ms :=
  ext (ofList ms) h fun k => lookup_ofList_of_nodup h.nodup k

end Ascending

end CloudDirector.Keyed
