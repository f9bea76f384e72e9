import CloudDirector.Json.Record
import CloudDirector.Proofs.Keyed

/-!
# Members of objects

The document of a value has the members of the value, and holds that value again if all of its keys
are in order. A record of an object finds under each name what the object has there, and its rest is
what stands under other names.
-/
namespace CloudDirector.Json
open Keyed

theorem documentsOf_eq (vs : List Value) : documentsOf vs = vs.map Value.toDocument := by
  induction vs with
  | nil => rfl
  | cons v vs ih => simp [documentsOf, ih]

theorem memberDocuments_eq (ms : List (String × Value)) :
    memberDocuments ms = ms.map fun m => (m.1, m.2.toDocument) := by
  induction ms with
  | nil => rfl
  | cons m ms ih => simp [memberDocuments, ih]

theorem Value.toDocument_eq_null {v : Value} : v.toDocument = .null ↔ v = .null := by
  cases v <;> simp [toDocument]

mutual
/-- What a value with ordered keys is written as holds it. -/
theorem Value.value_toDocument : ∀ {v : Value}, v.Ordered → v.toDocument.value? = some v
  | .null, _ => rfl
  | .bool _, _ => rfl
  | .number _, _ => rfl
  | .string _, _ => rfl
  | .array items, h => by
    have hitems := values_documentsOf h
    simp [Value.toDocument, Document.value?, hitems]
  | .object members, h => by
    have hmembers := memberValues_memberDocuments h.2
    simp [Value.toDocument, Document.value?, hmembers, Value.ofMembers, h.1.ofList_eq]

theorem values_documentsOf :
    ∀ {vs : List Value}, AllOrdered vs → valuesOf? (documentsOf vs) = some vs
  | [], _ => rfl
  | v :: vs, h => by
    have hv := Value.value_toDocument h.1
    have hvs := values_documentsOf h.2
    simp [documentsOf, valuesOf?, hv, hvs]

theorem memberValues_memberDocuments :
    ∀ {ms : List (String × Value)}, MembersOrdered ms → memberValues? (memberDocuments ms) = some ms
  | [], _ => rfl
  | (k, v) :: ms, h => by
    have hv := Value.value_toDocument h.1
    have hms := memberValues_memberDocuments h.2
    simp [memberDocuments, memberValues?, hv, hms]
end

theorem membersOrdered_iff {ms : List (String × Value)} :
    MembersOrdered ms ↔ ∀ m ∈ ms, m.2.Ordered := by
  induction ms with
  | nil => simp [MembersOrdered]
  | cons m ms ih => simp [MembersOrdered, ih]

theorem Value.Ordered.of_mem {ms : List (String × Value)} (h : (Value.object ms).Ordered)
    {m : String × Value} (hm : m ∈ ms) : m.2.Ordered :=
  membersOrdered_iff.1 h.2 m hm

def present (fields : List (String × Option Value)) : List (String × Value) :=
  fields.filterMap fun f => f.2.map (f.1, ·)

def held (ms : List (String × Value)) : List (String × Option Value) :=
  ms.map fun (k, v) => (k, some v)

theorem keys_held (ms : List (String × Value)) : (held ms).map Prod.fst = ms.map Prod.fst := by
  simp [held, Function.comp_def]

theorem lookup_held (ms : List (String × Value)) (name : String) :
    (held ms).lookup name = (ms.lookup name).map some :=
  lookup_map some ms name

theorem keys_present_sublist (fields : List (String × Option Value)) :
    ((present fields).map Prod.fst).Sublist (fields.map Prod.fst) := by
  induction fields with
  | nil => exact List.Sublist.refl _
  | cons f fields ih =>
    obtain ⟨k, v⟩ := f
    unfold present at ih ⊢
    cases v with
    | none => simpa using ih.cons k
    | some v => simpa using ih

theorem lookup_present {fields : List (String × Option Value)} (h : (fields.map Prod.fst).Nodup)
    (name : String) : (present fields).lookup name = (fields.lookup name).join := by
  induction fields with
  | nil => rfl
  | cons f fields ih =>
    obtain ⟨k, v⟩ := f
    obtain ⟨hfirst, hrest⟩ := List.nodup_cons.1 h
    have hstep : present ((k, v) :: fields) = (v.map (k, ·)).toList ++ present fields := by
      unfold present
      cases v <;> simp
    rw [hstep, List.lookup_append, ih hrest, List.lookup_cons]
    by_cases hk : name = k
    · subst hk
      have hnone : fields.lookup name = none := lookup_eq_none.2 hfirst
      cases v <;> simp [hnone]
    · have hbeq : (name == k) = false := by simpa using hk
      cases v <;> simp [List.lookup_cons, hbeq]

/-- An object has under each name what its fields have there. -/
theorem Value.member_ofFields {fields : List (String × Option Value)}
    (h : (fields.map Prod.fst).Nodup) (name : String) :
    (Value.ofFields fields).member? name = (fields.lookup name).join := by
  have hnodup := h.sublist (keys_present_sublist fields)
  exact (lookup_ofList_of_nodup hnodup name).trans (lookup_present h name)

def Value.record (v : Value) : Record := fun name => (v.member? name).map toDocument

theorem declared_memberDocuments {ms : List (String × Value)} (h : Ascending ms)
    (names : List String) :
    declared names (memberDocuments ms) = some (Value.object ms).record := by
  have hcount : ∀ name ∈ names, (memberDocuments ms).countP (fun m => m.1 == name) ≤ 1 := by
    intro name _
    have hle := List.nodup_iff_count_le_one.1 h.nodup name
    rw [List.count, List.countP_map] at hle
    rw [memberDocuments_eq, List.countP_map]
    exact hle
  have hlookup : (fun name => (memberDocuments ms).lookup name) = (Value.object ms).record := by
    funext name
    rw [memberDocuments_eq, Keyed.lookup_map]
    rfl
  unfold declared
  rw [if_pos (by simpa using hcount), hlookup]

theorem record_toDocument {ms : List (String × Value)} (h : Ascending ms) (names : List String) :
    (Value.object ms).toDocument.record? names = some (Value.object ms).record :=
  declared_memberDocuments h names

theorem record_ofFields (fields : List (String × Option Value)) (names : List String) :
    (Value.ofFields fields).toDocument.record? names = some (Value.ofFields fields).record :=
  record_toDocument (Ascending.ofList _) names

/-- The rest of an object are its members under other names than the declared ones. -/
theorem recordWithRest_toDocument {ms : List (String × Value)} {names : List String}
    (h : Ascending ms) (hrest : ∀ m ∈ ms, m.1 ∉ names → m.2.Ordered) :
    (Value.object ms).toDocument.recordWithRest? names =
      some ((Value.object ms).record, ms.filter fun m => !names.contains m.1) := by
  have hothers : (memberDocuments ms).filter (fun m => !names.contains m.1) =
      memberDocuments (ms.filter fun m => !names.contains m.1) := by
    rw [memberDocuments_eq, memberDocuments_eq, List.filter_map]
    rfl
  have hordered : MembersOrdered (ms.filter fun m => !names.contains m.1) := by
    rw [membersOrdered_iff]
    intro m hm
    obtain ⟨hmem, hname⟩ := List.mem_filter.1 hm
    exact hrest m hmem (by simpa using hname)
  have hsame : (Value.object ms).toDocument = .object (memberDocuments ms) := rfl
  rw [hsame]
  simp only [Document.recordWithRest?, declared_memberDocuments h, hothers,
    memberValues_memberDocuments hordered, (h.filter _).ofList_eq, Option.bind_eq_bind,
    Option.bind_some]

/-- A record under another name for a member that is not there is the same. -/
theorem renamed_ofFields {fields : List (String × Option Value)} {old : String}
    (h : old ∉ fields.map Prod.fst) (new : String) :
    (Value.ofFields fields).toDocument.renamed old new = (Value.ofFields fields).toDocument := by
  have hold : ∀ m ∈ ofList (present fields), m.1 ≠ old := by
    rintro ⟨k, v⟩ hm rfl
    have hlookup := (Ascending.ofList (present fields)).mem_iff.1 hm
    have hmem := List.mem_map_of_mem (f := Prod.fst) (mem_of_lookup_ofList hlookup)
    exact h ((keys_present_sublist fields).subset hmem)
  change Document.object (List.map _ (memberDocuments (ofList (present fields)))) =
    Document.object (memberDocuments (ofList (present fields)))
  rw [memberDocuments_eq, List.map_map]
  congr 1
  refine List.map_congr_left fun m hm => ?_
  simp [hold m hm]

/-- Members that no declared one is among, as an object has them. -/
structure IsRest (declared : List String) (rest : List (String × Value)) : Prop where
  ordered : (Value.object rest).Ordered
  undeclared : ∀ m ∈ rest, m.1 ∉ declared

section Rest

variable {fields : List (String × Option Value)} {rest : List (String × Value)}

theorem IsRest.nodup (h : IsRest (fields.map Prod.fst) rest)
    (hfields : (fields.map Prod.fst).Nodup) : ((fields ++ held rest).map Prod.fst).Nodup := by
  rw [List.map_append, keys_held]
  refine List.Nodup.append hfields h.ordered.1.nodup fun k hk hkrest => ?_
  obtain ⟨m, hm, rfl⟩ := List.mem_map.1 hkrest
  exact h.undeclared m hm hk

theorem IsRest.member_ofFields (h : IsRest (fields.map Prod.fst) rest)
    (hfields : (fields.map Prod.fst).Nodup) (name : String) :
    (Value.ofFields (fields ++ held rest)).member? name =
      if name ∈ fields.map Prod.fst then (fields.lookup name).join else rest.lookup name := by
  rw [Value.member_ofFields (h.nodup hfields), List.lookup_append, lookup_held]
  split
  case isTrue hname =>
    obtain ⟨f, hf, rfl⟩ := List.mem_map.1 hname
    rw [lookup_of_mem hfields hf]
    rfl
  case isFalse hname =>
    rw [lookup_eq_none.2 hname]
    cases rest.lookup name <;> rfl

/-- An object of fields and a rest is taken apart again. -/
theorem IsRest.recordWithRest_ofFields (h : IsRest (fields.map Prod.fst) rest)
    (hfields : (fields.map Prod.fst).Nodup) :
    (Value.ofFields (fields ++ held rest)).toDocument.recordWithRest?
        (fields.map Prod.fst) =
      some ((Value.ofFields (fields ++ held rest)).record, rest) := by
  have hordered := Ascending.ofList (present (fields ++ held rest))
  have hsame : (ofList (present (fields ++ held rest))).filter
      (fun m => !(fields.map Prod.fst).contains m.1) = rest := by
    refine Ascending.ext (hordered.filter _) h.ordered.1 fun name => ?_
    have hmember := h.member_ofFields hfields name
    rw [lookup_filter fun k => !(fields.map Prod.fst).contains k]
    change (ofList (present _)).lookup name = _ at hmember
    rw [hmember]
    by_cases hname : name ∈ fields.map Prod.fst
    · have hnone : rest.lookup name = none := by
        refine lookup_eq_none.2 fun hkey => ?_
        obtain ⟨m, hm, rfl⟩ := List.mem_map.1 hkey
        exact h.undeclared m hm hname
      simp [hname, hnone]
    · simp [hname]
  refine (recordWithRest_toDocument hordered fun m hm hname => ?_).trans ?_
  · have hmem : m ∈ rest := by
      rw [← hsame]
      exact List.mem_filter.2 ⟨hm, by simpa using hname⟩
    exact h.ordered.of_mem hmem
  · rw [hsame]
    rfl

end Rest
end CloudDirector.Json
