import CloudDirector.Proofs.Json.Members
import CloudDirector.Proofs.Time.Rfc3339
import CloudDirector.Resource.Task

/-!
# Reading back what is written

A decoder that reads back what was written of a value is known part by part: texts, numbers, labels,
instants and lists, and then records, each of whose members is required, optional or has a value of
its own when it is absent.
-/
namespace CloudDirector.Json
open Time

variable {α : Type} {read : Decoder α} {write : α → Value} {a : α}

/-- What is written of a value is not null and is read as that value. -/
structure ReadsBack (read : Decoder α) (write : α → Value) (a : α) : Prop where
  notNull : write a ≠ .null
  same : read (write a).toDocument = some a

namespace ReadsBack

theorem text (s : String) : ReadsBack .text .string s := ⟨nofun, rfl⟩

theorem flag (b : Bool) : ReadsBack .flag .bool b := ⟨nofun, rfl⟩

theorem whole {least most n : Int} (hleast : least ≤ n) (hmost : n ≤ most) :
    ReadsBack (.whole least most) .ofInt n :=
  ⟨nofun, if_pos ⟨hleast, hmost⟩⟩

theorem natural {limit n : Nat} (h : n < limit) : ReadsBack (.natural limit) .ofNat n := by
  have hbounds : (0 : Int) ≤ n ∧ (n : Int) ≤ (limit : Int) - 1 := by omega
  refine ⟨nofun, ?_⟩
  change ((if (0 : Int) ≤ n ∧ (n : Int) ≤ (limit : Int) - 1 then some (n : Int) else none).map
    Int.toNat) = some n
  rw [if_pos hbounds]
  rfl

theorem label {ofLabel : String → Option α} {label : α → String}
    (h : ofLabel (label a) = some a) : ReadsBack (.label ofLabel) (fun a => .string (label a)) a :=
  ⟨nofun, h⟩

theorem instant {t : Instant} (h : t.IsValid) : ReadsBack .instant .ofInstant t :=
  ⟨nofun, Option.bind_eq_some_iff.2 ⟨t.rfc3339, rfl, Instant.ofRfc3339_rfc3339 h⟩⟩

theorem list {as : List α} (h : ∀ a ∈ as, ReadsBack read write a) :
    ReadsBack (.list read) (fun as => .array (as.map write)) as := by
  refine ⟨nofun, ?_⟩
  change List.mapM read (documentsOf (as.map write)) = some as
  rw [documentsOf_eq]
  induction as with
  | nil => rfl
  | cons a as ih =>
    obtain ⟨ha, has⟩ := List.forall_mem_cons.1 h
    rw [List.map_cons, List.map_cons, List.mapM_cons, ha.same, ih has]
    rfl

end ReadsBack

theorem Decoder.nullable_eq {d : Document} (h : d ≠ .null) :
    nullable read d = (read d).map some := by
  cases d <;> first | rfl | exact absurd rfl h

namespace Record

variable {fields : List (String × Option Value)} {name : String}

theorem ofFields_eq {v : Option Value} (hnodup : (fields.map Prod.fst).Nodup)
    (hfield : fields.lookup name = some v) :
    (Value.ofFields fields).record name = v.map Value.toDocument := by
  unfold Value.record
  rw [Value.member_ofFields hnodup, hfield]
  rfl

theorem required_ofFields (hnodup : (fields.map Prod.fst).Nodup)
    (hfield : fields.lookup name = some (some (write a))) (h : ReadsBack read write a) :
    (Value.ofFields fields).record.required name read = some a := by
  unfold required
  rw [ofFields_eq hnodup hfield]
  exact h.same

theorem orElse_ofFields {absent : α} (hnodup : (fields.map Prod.fst).Nodup)
    (hfield : fields.lookup name = some (some (write a))) (h : ReadsBack read write a) :
    (Value.ofFields fields).record.orElse name absent read = some a := by
  unfold orElse
  rw [ofFields_eq hnodup hfield]
  exact h.same

theorem optional_ofFields {o : Option α} (hnodup : (fields.map Prod.fst).Nodup)
    (hfield : fields.lookup name = some (o.map write))
    (h : ∀ a, o = some a → ReadsBack read write a) :
    (Value.ofFields fields).record.optional name read = some o := by
  unfold optional
  rw [ofFields_eq hnodup hfield]
  cases o with
  | none => rfl
  | some a =>
    have ha := h a rfl
    have hnull : (write a).toDocument ≠ .null := fun hd =>
      ha.notNull (Value.toDocument_eq_null.1 hd)
    change Decoder.nullable read (write a).toDocument = some (some a)
    rw [Decoder.nullable_eq hnull, ha.same]
    rfl

end Record

/-- What is written of a declared member: something if it was there, what it is by default if it was
absent or null, and a text unchanged. -/
structure KeepsMember (default : Option Value) (v : Value) (name : String)
    (written : Option Value) : Prop where
  present : ∀ w, v.member? name = some w → w ≠ .null → written.isSome
  absent : v.member? name = none ∨ v.member? name = some .null → written = default
  text : ∀ s, v.member? name = some (.string s) → written = some (.string s)

theorem Record.keepsMember_optional {v : Value} {name : String} {o : Option α}
    (h : v.record.optional name read = some o)
    (htext : ∀ s a, read (.string s) = some a → write a = .string s) :
    KeepsMember none v name (o.map write) := by
  unfold optional Value.record at h
  cases hmember : v.member? name with
  | none =>
    rw [hmember] at h
    obtain rfl : none = o := Option.some.inj h
    exact ⟨by simp [hmember], fun _ => rfl, by simp [hmember]⟩
  | some w =>
    rw [hmember] at h
    change Decoder.nullable read w.toDocument = some o at h
    by_cases hnull : w = .null
    · subst hnull
      obtain rfl : none = o := Option.some.inj h
      exact ⟨by simp [hmember], fun _ => rfl, by simp [hmember]⟩
    · rw [Decoder.nullable_eq (mt Value.toDocument_eq_null.1 hnull)] at h
      obtain ⟨a, ha, rfl⟩ := Option.map_eq_some_iff.1 h
      refine ⟨fun _ _ _ => rfl, by simp [hmember, hnull], fun s hs => ?_⟩
      obtain rfl : w = .string s := Option.some.inj (hmember.symm.trans hs)
      exact congrArg some (htext s a ha)

theorem Record.keepsMember_text {v : Value} {name : String} {o : Option String}
    (h : v.record.optional name .text = some o) : KeepsMember none v name (o.map .string) :=
  keepsMember_optional h fun _ _ hs => congrArg Value.string (Option.some.inj hs).symm

theorem Record.keepsMember_orElse {v : Value} {name : String} {absent : α}
    (h : v.record.orElse name absent read = some a) (hnull : read .null = none)
    (htext : ∀ s a, read (.string s) = some a → write a = .string s) :
    KeepsMember (some (write absent)) v name (some (write a)) := by
  unfold orElse Value.record at h
  cases hmember : v.member? name with
  | none =>
    rw [hmember] at h
    obtain rfl : absent = a := Option.some.inj h
    exact ⟨by simp [hmember], fun _ => rfl, by simp [hmember]⟩
  | some w =>
    rw [hmember] at h
    change read w.toDocument = some a at h
    refine ⟨fun _ _ _ => rfl, fun hnone => ?_, fun s hs => ?_⟩
    · obtain rfl : w = .null := by simpa [hmember] using hnone
      cases hnull.symm.trans h
    · obtain rfl : w = .string s := Option.some.inj (hmember.symm.trans hs)
      exact congrArg some (htext s a h)

/-- An object that is written of what was read from one has the same under other names than the
declared ones, and keeps the declared ones that were there. -/
structure Retains (declared : List String) (default : String → Option Value) (v w : Value) :
    Prop where
  object : ∃ ms, w = .object ms ∧ Keyed.Ascending ms
  others : ∀ name, name ∉ declared → w.member? name = v.member? name
  kept : ∀ name ∈ declared, KeepsMember (default name) v name (w.member? name)

theorem retains_ofFields {fields : List (String × Option Value)}
    {default : String → Option Value} {ms : List (String × Value)}
    (hms : (Value.object ms).Ordered) (hfields : (fields.map Prod.fst).Nodup)
    (hkept : ∀ name w, (name, w) ∈ fields → KeepsMember (default name) (.object ms) name w) :
    Retains (fields.map Prod.fst) default (.object ms)
      (.ofFields (fields ++ held (ms.filter fun m => !(fields.map Prod.fst).contains m.1))) := by
  have hrest : IsRest (fields.map Prod.fst)
      (ms.filter fun m => !(fields.map Prod.fst).contains m.1) := by
    refine ⟨⟨hms.1.filter _, membersOrdered_iff.2 fun m hm => ?_⟩, fun m hm => ?_⟩
    · exact hms.of_mem (List.mem_of_mem_filter hm)
    · simpa using (List.mem_filter.1 hm).2
  have hmember := hrest.member_ofFields hfields
  refine ⟨⟨_, rfl, Keyed.Ascending.ofList _⟩, fun name hname => ?_, fun name hname => ?_⟩
  · rw [hmember, if_neg hname, Keyed.lookup_filter fun k => !(fields.map Prod.fst).contains k,
      if_pos (by simpa using hname)]
    rfl
  · obtain ⟨f, hf, rfl⟩ := List.mem_map.1 hname
    rw [hmember, if_pos hname, Keyed.lookup_of_mem hfields hf]
    exact hkept f.1 f.2 hf

end CloudDirector.Json
