/-!
# Keyed lists

Lists of pairs in ascending order of their keys, each key once: the members of JSON objects,
cookies, tasks by their identifier. Reading a key from a keyed list is `List.lookup`.
-/
namespace CloudDirector.Keyed

variable {α : Type}

/-- The list with the value of `key` set to `v`, in order if the list is. -/
def insert (key : String) (v : α) : List (String × α) → List (String × α)
  | [] => [(key, v)]
  | (k, w) :: rest =>
    if key = k then (key, v) :: rest
    else if key < k then (key, v) :: (k, w) :: rest
    else (k, w) :: insert key v rest

/-- The list without `key`. -/
def erase (key : String) (ms : List (String × α)) : List (String × α) := ms.filter (·.1 != key)

def ofList (pairs : List (String × α)) : List (String × α) :=
  pairs.foldl (fun ms (k, v) => insert k v ms) []

def contains (key : String) (ms : List (String × α)) : Bool := (ms.lookup key).isSome

def Ascending (ms : List (String × α)) : Prop := (ms.map Prod.fst).Pairwise (· < ·)

theorem lookup_insert_self (key : String) (v : α) (ms : List (String × α)) :
    (insert key v ms).lookup key = some v := by
  induction ms with
  | nil => simp [insert]
  | cons m ms ih =>
    obtain ⟨k, w⟩ := m
    simp only [insert]
    split
    · simp
    · split
      · simp
      · rename_i hne _
        have hk : (key == k) = false := by simp [hne]
        simp [List.lookup_cons, hk, ih]

theorem lookup_insert_ne {key other : String} (h : other ≠ key) (v : α)
    (ms : List (String × α)) : (insert key v ms).lookup other = ms.lookup other := by
  have ho : (other == key) = false := by simp [h]
  induction ms with
  | nil => simp [insert, List.lookup_cons, ho]
  | cons m ms ih =>
    obtain ⟨k, w⟩ := m
    simp only [insert]
    split
    · rename_i hk
      subst hk
      simp [List.lookup_cons, ho]
    · split
      · simp [List.lookup_cons, ho]
      · simp [List.lookup_cons, ih]

end CloudDirector.Keyed
