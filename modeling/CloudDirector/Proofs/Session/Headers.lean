import CloudDirector.Proofs.Http.Validity
import CloudDirector.Proofs.Keyed
import CloudDirector.Session.Login
import Mathlib.Data.Option.Basic

/-!
# Authentication headers of a session

What a log-in takes from a reply was visible text there, so it can be sent: the state that a log-in
installs yields its authentication headers unless the tenant is no header value.
-/
namespace CloudDirector
open Http Text

theorem isHeaderValue_of_filledHeader {r : Reply} {name v : String}
    (h : filledHeader r name = some v) : isHeaderValue v = true := by
  obtain ⟨hv, -⟩ := Option.filter_eq_some_iff.1 h
  exact isHeaderValue_of_text? hv

theorem cutFirst_sublist {sep : Char → Bool} {cs before after : List Char}
    (h : cutFirst sep cs = some (before, after)) : after.Sublist cs := by
  induction cs generalizing before with
  | nil => cases h
  | cons c cs ih =>
    unfold cutFirst at h
    split at h
    · cases h
      exact List.sublist_cons_self c _
    · obtain ⟨⟨b, a⟩, hcut, heq⟩ := Option.map_eq_some_iff.1 h
      cases heq
      exact (ih hcut).trans (List.sublist_cons_self c cs)

theorem trimBoth_sublist (p : Char → Bool) (cs : List Char) : (trimBoth p cs).Sublist cs := by
  have hend : (trimEnd p (trimStart p cs)).Sublist (trimStart p cs) := by
    have hdrop := (List.dropWhile_sublist p (l := (trimStart p cs).reverse)).reverse
    rwa [List.reverse_reverse] at hdrop
  exact hend.trans (List.dropWhile_sublist p)

/-- A cookie is kept under one of the known names, with a value that can be sent. -/
theorem keptCookie_eq_some {value name v : String} (hvalue : isVisible value = true)
    (h : keptCookie value = some (name, v)) :
    name ∈ AuthState.cookieNames ∧ isHeaderValue v = true := by
  unfold keptCookie at h
  obtain ⟨⟨before, after⟩, hcut, h⟩ := Option.bind_eq_some_iff.1 h
  obtain ⟨_, hname, h⟩ := Option.bind_eq_some_iff.1 h
  obtain ⟨rfl, rfl⟩ := Prod.mk.inj (Option.some.inj h)
  refine ⟨List.contains_iff_mem.1 ((Option.guard_eq_some' _).1 hname), ?_⟩
  have hsub : (trimBlank after).Sublist value.toList :=
    ((trimBoth_sublist _ _).trans (cutFirst_sublist hcut)).trans (List.takeWhile_sublist _)
  have hall := isHeaderValue_of_isVisible hvalue
  simp only [isHeaderValue, List.all_eq_true, String.toList_ofList] at hall ⊢
  exact fun c hc => hall c (hsub.subset hc)

/-- The cookies of a reply have known names and values that can be sent. -/
theorem sessionCookies_lookup {h : Headers} {name v : String}
    (hv : (sessionCookies h).lookup name = some v) :
    name ∈ AuthState.cookieNames ∧ isHeaderValue v = true := by
  have hmem := Keyed.mem_of_lookup_ofList hv
  simp only [List.mem_filterMap] at hmem
  obtain ⟨value, ⟨raw, -, hvisible⟩, hkept⟩ := hmem
  unfold visible? at hvisible
  split at hvisible
  · cases hvisible
    exact keptCookie_eq_some ‹_› hkept
  · cases hvisible

namespace AuthState

/-- Everything that a log-in gave to a state can be sent. -/
structure Sendable (x : AuthState) : Prop where
  jwt : ∀ v, x.jwt = some v → isHeaderValue v = true
  authContext : ∀ v, x.authContext = some v → isHeaderValue v = true
  token : ∀ v, x.token = some v → isHeaderValue v = true
  cookies : ∀ name v, x.cookies.lookup name = some v → isHeaderValue v = true

theorem Sendable.cookieText {x : AuthState} (h : x.Sendable) :
    isHeaderValue x.cookieText = true := by
  refine isHeaderValue_intercalate rfl fun part hpart => ?_
  obtain ⟨name, hname, v, hv, rfl⟩ : ∃ name ∈ cookieNames, ∃ v, x.cookies.lookup name = some v ∧
      name ++ "=" ++ v = part := by simpa using hpart
  have hvalid : isHeaderValue name = true := by
    simp only [cookieNames, List.mem_cons, List.not_mem_nil, or_false] at hname
    rcases hname with rfl | rfl | rfl <;> rfl
  rw [isHeaderValue_append, isHeaderValue_append, hvalid, h.cookies name v hv]
  rfl

theorem Sendable.exists_identityHeaders {x : AuthState} (h : x.Sendable)
    (hnone : x.sessionless? = none) : ∃ hs, x.identityHeaders = .ok hs := by
  unfold identityHeaders
  rw [hnone]
  cases hjwt : x.jwt with
  | some jwt =>
    have hbearer : isHeaderValue ("Bearer " ++ jwt) = true := by
      rw [isHeaderValue_append, h.jwt jwt hjwt]
      rfl
    have hset := (Headers.set?_eq_ok (h := .empty) Name.check_authorization).2 ⟨hbearer, rfl⟩
    simp only [hset, Result.ok_bind]
    cases hcontext : x.authContext with
    | none => exact ⟨_, rfl⟩
    | some context =>
      exact ⟨_, (Headers.set?_eq_ok Name.check_authContext).2
        ⟨h.authContext context hcontext, rfl⟩⟩
  | none =>
    cases htoken : x.token with
    | none => exact ⟨_, rfl⟩
    | some token =>
      exact ⟨_, (Headers.set?_eq_ok Name.check_legacyToken).2 ⟨h.token token htoken, rfl⟩⟩

/-- The authentication headers are there if the tenant is a header value. -/
theorem Sendable.exists_authHeaders {x : AuthState} (h : x.Sendable)
    (hnone : x.sessionless? = none) (htenant : ∀ t, x.tenant = some t → isHeaderValue t = true) :
    ∃ hs, x.authHeaders = .ok hs := by
  obtain ⟨hs, hidentity⟩ := h.exists_identityHeaders hnone
  have hcookie (g : Headers) : g.set? Name.cookie x.cookieText =
      .ok (g.set Name.cookie x.cookieText) :=
    (Headers.set?_eq_ok Name.check_cookie).2 ⟨h.cookieText, rfl⟩
  unfold authHeaders
  rw [hidentity]
  simp only [Result.ok_bind, hcookie]
  cases ht : x.tenant with
  | none =>
    simp only [Result.pure_eq, Result.ok_bind]
    split <;> exact ⟨_, rfl⟩
  | some t =>
    have hset := (Headers.set?_eq_ok (h := hs) Name.check_tenantContext).2 ⟨htenant t ht, rfl⟩
    simp only [hset, Result.ok_bind]
    split <;> exact ⟨_, rfl⟩

theorem isHeaderValue_tenant {x : AuthState} {hs : Headers} (h : x.authHeaders = .ok hs) (t : String)
    (ht : x.tenant = some t) : isHeaderValue t = true := by
  unfold authHeaders at h
  rw [ht] at h
  obtain ⟨_, -, h⟩ := Result.bind_eq_ok.1 h
  obtain ⟨_, hset, -⟩ := Result.bind_eq_ok.1 h
  exact ((Headers.set?_eq_ok Name.check_tenantContext).1 hset).1

/-- What a log-in installs. -/
theorem of_stateOfLogin {s : Settings} {c : Credentials} {tenant : Option String} {r : Reply}
    {x : AuthState} (h : stateOfLogin s c tenant r = .ok x) :
    x.credentials = some c ∧ x.tenant = tenant ∧ x.Sendable := by
  unfold stateOfLogin at h
  cases htoken : filledHeader r Name.legacyToken with
  | none => simp [htoken] at h
  | some token =>
    simp only [htoken] at h
    obtain ⟨session, -, h⟩ := Result.bind_eq_ok.1 h
    cases h
    refine ⟨rfl, rfl, fun v hv => isHeaderValue_of_filledHeader hv, nofun, ?_,
      fun name v hv => (sessionCookies_lookup hv).2⟩
    intro v hv
    cases hv
    exact isHeaderValue_of_filledHeader htoken

/-- Credentials that make sessions leave nothing to sign. -/
theorem sessionless_of_stateOfLogin {s : Settings} {c : Credentials} {tenant : Option String}
    {r : Reply} {x : AuthState} (hc : c.isSessionless = false)
    (h : stateOfLogin s c tenant r = .ok x) : x.sessionless? = none := by
  simp [sessionless?, (of_stateOfLogin h).1, hc]

end AuthState

end CloudDirector
