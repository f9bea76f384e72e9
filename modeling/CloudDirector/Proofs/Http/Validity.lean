import CloudDirector.Http.Checked
import CloudDirector.Http.Exchange

/-!
# Valid headers

What may stand in a header: texts put together from valid values are valid, and what a reply gives
as visible text is valid in a request. A header that is set in its place keeps the values of all
other names.
-/
namespace CloudDirector.Http
open Text

theorem isHeaderValue_append (a b : String) :
    isHeaderValue (a ++ b) = (isHeaderValue a && isHeaderValue b) := by
  simp [isHeaderValue]

@[simp] theorem isHeaderValue_ofList (cs : List Char) :
    isHeaderValue (String.ofList cs) = cs.all isValueChar := by
  simp [isHeaderValue]

theorem isHeaderValue_intercalate {sep : String} {parts : List String}
    (hsep : isHeaderValue sep = true) (h : ∀ part ∈ parts, isHeaderValue part = true) :
    isHeaderValue (String.intercalate sep parts) = true := by
  induction parts with
  | nil => simp [isHeaderValue]
  | cons part parts ih =>
    have hpart := h part (by simp)
    cases parts with
    | nil => simpa using hpart
    | cons next rest =>
      have hrest := ih fun part hmem => h part (by simp [hmem])
      rw [String.intercalate_cons_cons, isHeaderValue_append, isHeaderValue_append]
      simp [hpart, hsep, hrest]

theorem isHeaderValue_of_intercalate {sep : String} {parts : List String}
    (h : isHeaderValue (String.intercalate sep parts) = true) :
    ∀ part ∈ parts, isHeaderValue part = true := by
  induction parts with
  | nil => exact nofun
  | cons part parts ih =>
    cases parts with
    | nil => simpa using h
    | cons next rest =>
      rw [String.intercalate_cons_cons, isHeaderValue_append, isHeaderValue_append,
        Bool.and_eq_true, Bool.and_eq_true] at h
      obtain ⟨⟨hpart, -⟩, hrest⟩ := h
      exact List.forall_mem_cons.2 ⟨hpart, ih hrest⟩

theorem isHeaderValue_of_isVisible {v : String} (h : isVisible v = true) :
    isHeaderValue v = true := by
  simp only [isVisible, isHeaderValue, List.all_eq_true] at h ⊢
  intro c hc
  have hvisible := h c hc
  simp only [Bool.or_eq_true, Bool.and_eq_true, decide_eq_true_eq] at hvisible
  unfold isValueChar
  rcases hvisible with htab | ⟨hlow, hhigh⟩
  · simp [htab]
  · have hne : c.toNat ≠ 0x7f := by omega
    simp [hlow, hne]

theorem isHeaderValue_of_text? {h : Headers} {name v : String} (hv : h.text? name = some v) :
    isHeaderValue v = true := by
  obtain ⟨w, -, hw⟩ := Option.bind_eq_some_iff.1 hv
  unfold visible? at hw
  split at hw
  · cases hw
    exact isHeaderValue_of_isVisible ‹_›
  · cases hw

theorem checkValue_eq_ok {v w : String} :
    checkValue v = .ok w ↔ isHeaderValue v = true ∧ w = v := by
  unfold checkValue
  by_cases hv : isHeaderValue v = true
  · simp [hv, eq_comm]
  · simp [hv]

theorem checkName_eq_ok {name lowered : String} (h : checkName name = .ok lowered) :
    lowered = Text.lower name := by
  unfold checkName at h
  split at h
  case h_1 n hname =>
    cases h
    obtain ⟨-, hlowered⟩ := Option.ite_none_right_eq_some.1 hname
    exact (Option.some.inj hlowered).symm
  case h_2 => cases h

namespace Headers

theorem set?_eq_ok {h h' : Headers} {name lowered v : String} (hname : checkName name = .ok lowered) :
    h.set? name v = .ok h' ↔ isHeaderValue v = true ∧ h' = h.set lowered v := by
  unfold set?
  rw [hname, Result.ok_bind, Result.bind_eq_ok]
  constructor
  · rintro ⟨w, hw, hset⟩
    obtain ⟨hv, rfl⟩ := checkValue_eq_ok.1 hw
    cases hset
    exact ⟨hv, rfl⟩
  · rintro ⟨hv, rfl⟩
    exact ⟨v, checkValue_eq_ok.2 ⟨hv, rfl⟩, rfl⟩

theorem contains_eq (h : Headers) (name : String) :
    h.contains name = h.fields.any (·.1 == name) := by
  unfold contains get? getAll
  induction h.fields with
  | nil => rfl
  | cons f fs ih => by_cases hf : f.1 = name <;> simp_all

theorem getAll_replaceBy (h other : Headers) (name : String) :
    (h.replaceBy other).getAll name =
      if other.contains name then other.getAll name else h.getAll name := by
  unfold replaceBy getAll
  rw [List.filter_append, List.filter_filter, List.map_append]
  by_cases hc : other.contains name = true
  · have hnone : h.fields.filter (fun f => f.1 == name && !other.contains f.1) = [] := by
      rw [List.filter_eq_nil_iff]
      intro f _ hf
      obtain ⟨rfl, hnot⟩ : f.1 = name ∧ other.contains f.1 = false := by simpa using hf
      rw [hnot] at hc
      cases hc
    simp [hc, hnone]
  · have hothers : other.fields.filter (·.1 == name) = [] := by
      rw [contains_eq] at hc
      rw [List.filter_eq_nil_iff]
      intro f hf hname
      exact hc (List.any_eq_true.2 ⟨f, hf, hname⟩)
    have hsame : h.fields.filter (fun f => f.1 == name && !other.contains f.1) =
        h.fields.filter (·.1 == name) := by
      apply List.filter_congr
      intro f _
      by_cases hf : f.1 = name <;> simp_all
    simp [hc, hothers, hsame]

/-- Headers that are set in turn keep the values of names that are not among them. -/
theorem getAll_setAll {more : List (String × String)} {name : String}
    (hname : name ∉ more.map Prod.fst) (h : Headers) :
    (h.setAll more).getAll name = h.getAll name := by
  unfold setAll
  induction more generalizing h with
  | nil => rfl
  | cons f more ih =>
    simp only [List.map_cons, List.mem_cons, not_or] at hname
    rw [List.foldl_cons, ih hname.2, getAll_set, if_neg (Ne.symm hname.1)]

end Headers

namespace Name

theorem check_authorization : checkName authorization = .ok authorization := rfl

theorem check_authContext : checkName authContext = .ok authContext := rfl

theorem check_tenantContext : checkName tenantContext = .ok tenantContext := rfl

theorem check_legacyToken : checkName legacyToken = .ok legacyToken := rfl

theorem check_cookie : checkName cookie = .ok cookie := rfl

end Name

end CloudDirector.Http
