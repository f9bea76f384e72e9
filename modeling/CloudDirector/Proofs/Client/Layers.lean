import CloudDirector.Proofs.Client.Assembly

/-!
# What a request says of its client and its state

A header has the values of the last part of a request that sets its name: the defaults of the
client, its media types, the number of the request, the state of authentication, the request's own
plan. What a state that signs nothing says is known name by name, and so is what a log-in posts.
-/
namespace CloudDirector
open Http Time

@[simp] theorem Http.Headers.getAll_empty (name : String) : Headers.empty.getAll name = [] := rfl

namespace AuthState

/-- How a state says who is asking: by the header of sessionless credentials, by an access token
with its context, by the session token, or not at all. -/
def identityFields (x : AuthState) : List (String × String) :=
  match x.sessionless? with
  | some c => [(Text.lower c.headerName, c.headerValue)]
  | none =>
    match x.jwt with
    | some jwt =>
      (Name.authorization, "Bearer " ++ jwt) :: x.authContext.toList.map (Name.authContext, ·)
    | none => x.token.toList.map (Name.legacyToken, ·)

/-- The values by which a state that signs nothing says who is asking, for each name of a header. -/
def identityValues (x : AuthState) (name : String) : List String :=
  match x.jwt with
  | some jwt =>
    if Name.authContext = name then x.authContext.toList
    else if Name.authorization = name then ["Bearer " ++ jwt] else []
  | none => if Name.legacyToken = name then x.token.toList else []

/-- All values that a state which signs nothing gives to the headers of its requests. -/
def values (x : AuthState) (name : String) : List String :=
  if Name.cookie = name then [x.cookieText].filter (· ≠ "")
  else if Name.tenantContext = name then x.tenant.toList
  else x.identityValues name

variable {x : AuthState} {hs : Headers}

theorem identityHeaders_eq (h : x.identityHeaders = .ok hs) : hs = ⟨x.identityFields⟩ := by
  unfold identityHeaders at h
  unfold identityFields
  cases hcred : x.sessionless? with
  | some c =>
    simp only [hcred] at h
    obtain ⟨lowered, hlowered, -⟩ := Result.bind_eq_ok.1 h
    obtain ⟨-, rfl⟩ := (Headers.set?_eq_ok hlowered).1 h
    rw [checkName_eq_ok hlowered]
    rfl
  | none =>
    simp only [hcred] at h
    cases hjwt : x.jwt with
    | some jwt =>
      simp only [hjwt] at h
      obtain ⟨bearer, hbearer, h⟩ := Result.bind_eq_ok.1 h
      obtain ⟨-, rfl⟩ := (Headers.set?_eq_ok Name.check_authorization).1 hbearer
      cases hcontext : x.authContext with
      | none =>
        simp only [hcontext] at h
        cases h
        rfl
      | some context =>
        simp only [hcontext] at h
        obtain ⟨-, rfl⟩ := (Headers.set?_eq_ok Name.check_authContext).1 h
        rfl
    | none =>
      simp only [hjwt] at h
      cases htoken : x.token with
      | none =>
        simp only [htoken] at h
        cases h
        rfl
      | some token =>
        simp only [htoken] at h
        obtain ⟨-, rfl⟩ := (Headers.set?_eq_ok Name.check_legacyToken).1 h
        rfl

theorem getAll_identityFields (hnone : x.sessionless? = none) (name : String) :
    Headers.getAll ⟨x.identityFields⟩ name = x.identityValues name := by
  unfold identityFields identityValues
  rw [hnone]
  cases x.jwt with
  | some jwt =>
    by_cases hcontext : Name.authContext = name
    · subst hcontext
      cases x.authContext <;> rfl
    · by_cases hidentity : Name.authorization = name <;> cases x.authContext <;>
        simp [Headers.getAll, hcontext, hidentity]
  | none =>
    by_cases hname : Name.legacyToken = name <;> cases x.token <;> simp [Headers.getAll, hname]

theorem identityValues_cookie (x : AuthState) : x.identityValues Name.cookie = [] := by
  unfold identityValues
  cases x.jwt <;> rfl

theorem identityValues_tenantContext (x : AuthState) :
    x.identityValues Name.tenantContext = [] := by
  unfold identityValues
  cases x.jwt <;> rfl

/-- The tenant and the cookies are set over what says who is asking. -/
theorem authHeaders_eq (h : x.authHeaders = .ok hs) : ∃ limited : Headers,
    limited = x.tenant.elim ⟨x.identityFields⟩
      (Headers.set ⟨x.identityFields⟩ Name.tenantContext) ∧
    hs = if x.sessionless?.isNone ∧ x.cookieText ≠ "" then limited.set Name.cookie x.cookieText
      else limited := by
  have hcookies (limited : Headers)
      (hset : (if x.sessionless?.isNone ∧ x.cookieText ≠ "" then
        limited.set? Name.cookie x.cookieText else (pure limited : Result Headers)) = .ok hs) :
      hs = if x.sessionless?.isNone ∧ x.cookieText ≠ "" then limited.set Name.cookie x.cookieText
        else limited := by
    split at hset
    case isTrue hsends =>
      rw [if_pos hsends]
      exact ((Headers.set?_eq_ok Name.check_cookie).1 hset).2
    case isFalse hsends =>
      rw [if_neg hsends]
      cases hset
      rfl
  obtain ⟨identity, hidentity, h⟩ := Result.bind_eq_ok.1 h
  obtain rfl := identityHeaders_eq hidentity
  cases ht : x.tenant with
  | none =>
    rw [ht] at h
    exact ⟨_, rfl, hcookies _ h⟩
  | some t =>
    rw [ht] at h
    obtain ⟨limited, hlimited, h⟩ := Result.bind_eq_ok.1 h
    obtain ⟨-, rfl⟩ := (Headers.set?_eq_ok Name.check_tenantContext).1 hlimited
    exact ⟨_, rfl, hcookies _ h⟩

theorem getAll_authHeaders (hnone : x.sessionless? = none) (h : x.authHeaders = .ok hs)
    (name : String) : hs.getAll name = x.values name := by
  obtain ⟨limited, hlimited, rfl⟩ := authHeaders_eq h
  have hvalues (name : String) : limited.getAll name =
      if Name.tenantContext = name then x.tenant.toList else x.identityValues name := by
    rw [hlimited]
    cases x.tenant with
    | none =>
      rw [Option.elim_none, getAll_identityFields hnone]
      by_cases hname : Name.tenantContext = name
      · simp [← hname, identityValues_tenantContext]
      · simp [hname]
    | some t =>
      rw [Option.elim_some, Headers.getAll_set, getAll_identityFields hnone]
      rfl
  unfold values
  split
  case isTrue hsends =>
    rw [Headers.getAll_set, hvalues]
    simp [hsends.2]
  case isFalse hsends =>
    have hempty : x.cookieText = "" := by simpa [hnone] using hsends
    by_cases hname : Name.cookie = name
    · rw [← hname, hvalues, if_neg (by decide), identityValues_cookie]
      simp [hempty]
    · rw [if_neg hname, hvalues]

end AuthState

namespace Attempt

variable {s : Settings} {a : Attempt} {id : String} {now : Instant} {r : Request} {opening h : Headers}

/-- The media type that is accepted and, for a request with a body, that of the body. -/
def mediaTypes (s : Settings) (a : Attempt) : Headers :=
  ⟨(Name.accept, s.versioned ((a.plan.bind RequestPlan.accept).getD Media.anyJson)) ::
    if a.body.isSome then
      [(Name.contentType, s.versioned ((a.plan.bind RequestPlan.contentType).getD Media.anyJson))]
    else []⟩

theorem openingHeaders_eq (ho : a.openingHeaders s = .ok opening) :
    opening = s.defaults.setAll (a.mediaTypes s).fields := by
  obtain ⟨accept, haccept, ho⟩ := Result.bind_eq_ok.1 ho
  obtain ⟨-, rfl⟩ := checkValue_eq_ok.1 haccept
  unfold mediaTypes
  split at ho
  case isTrue hbody =>
    obtain ⟨contentType, hcontentType, ho⟩ := Result.bind_eq_ok.1 ho
    obtain ⟨-, rfl⟩ := checkValue_eq_ok.1 hcontentType
    cases ho
    rw [if_pos hbody]
    rfl
  case isFalse hbody =>
    cases ho
    rw [if_neg hbody]
    rfl

theorem getAll_openingHeaders (ho : a.openingHeaders s = .ok opening) {name : String}
    (haccept : name ≠ Name.accept) (htype : name ≠ Name.contentType) :
    opening.getAll name = s.defaults.getAll name := by
  have hname : name ∉ (a.mediaTypes s).fields.map Prod.fst := by
    unfold mediaTypes
    split <;> simp [haccept, htype]
  rw [openingHeaders_eq ho, Headers.getAll_setAll hname]

theorem getAll_numbered (hn : numbered opening id = .ok h) (name : String) :
    h.getAll name = if Name.clientRequestId = name ∧ id ≠ "" then [id] else opening.getAll name := by
  unfold numbered at hn
  split at hn
  case isTrue hid =>
    cases hn
    simp [hid]
  case isFalse hid =>
    obtain ⟨checked, hchecked, hn⟩ := Result.bind_eq_ok.1 hn
    obtain ⟨-, hsame⟩ := checkValue_eq_ok.1 hchecked
    cases hn
    simp [Headers.getAll_set, hid, hsame]

theorem getAll_unsigned {numbered auth : Headers} {name : String}
    (hplan : ∀ p, a.plan = some p → name ∉ p.headers.fields.map Prod.fst) :
    (a.unsigned numbered auth).headers.getAll name =
      if auth.getAll name = [] then numbered.getAll name else auth.getAll name := by
  have hcontains : auth.contains name = true ↔ auth.getAll name ≠ [] := by
    simp [Headers.contains, Headers.get?]
  have hreplaced : (numbered.replaceBy auth).getAll name =
      if auth.getAll name = [] then numbered.getAll name else auth.getAll name := by
    rw [Headers.getAll_replaceBy]
    by_cases hauth : auth.getAll name = [] <;> simp [hcontains, hauth]
  unfold unsigned
  cases hp : a.plan with
  | none => exact hreplaced
  | some p => exact (Headers.getAll_setAll (hplan p hp) _).trans hreplaced

end Attempt

def clientNames : List String := [Name.accept, Name.contentType, Name.clientRequestId]

/-- The values that a state gives to a header, or those of the defaults if it gives none. -/
def AuthState.valuesOver (x : AuthState) (defaults : Headers) (name : String) : List String :=
  if x.values name = [] then defaults.getAll name else x.values name

/-- Names that neither the client nor the plan sets have the values that the state gives them, over
the defaults. -/
theorem Attempt.getAll_request {s : Settings} {a : Attempt} {id name : String} {now : Instant}
    {r : Request} (h : a.request s id now = .ok r) (hnone : a.state.sessionless? = none)
    (hname : name ∉ clientNames)
    (hplan : ∀ p, a.plan = some p → name ∉ p.headers.fields.map Prod.fst) :
    r.headers.getAll name = a.state.valuesOver s.defaults name := by
  simp only [clientNames, List.mem_cons, List.not_mem_nil, or_false, not_or] at hname
  obtain ⟨haccept, htype, hid⟩ := hname
  obtain ⟨opening, numbered, auth, hopening, hnumbered, hauth, hsigned⟩ :=
    Attempt.request_eq_ok.1 h
  rcases hsigned with ⟨-, rfl⟩ | ⟨c, hsome, -⟩
  · unfold AuthState.valuesOver
    rw [Attempt.getAll_unsigned hplan, AuthState.getAll_authHeaders hnone hauth,
      Attempt.getAll_numbered hnumbered, Attempt.getAll_openingHeaders hopening haccept htype]
    simp [Ne.symm hid]
  · cases hnone.symm.trans hsome

theorem Credentials.sign_of_sessions {c : Credentials} (hc : c.isSessionless = false)
    (now : Instant) (r : Request) : c.sign now r = .ok r := by
  induction c with
  | multisite c => cases hc
  | provider inner ih => exact ih hc
  | _ => rfl

theorem AuthState.values_ofTenant (tenant : Option String) (name : String) :
    (AuthState.ofTenant tenant).values name =
      if Name.tenantContext = name then tenant.toList else [] := by
  have htext : (AuthState.ofTenant tenant).cookieText = "" := rfl
  have hidentity : (AuthState.ofTenant tenant).identityValues name = [] := by
    simp [AuthState.identityValues, AuthState.ofTenant]
  unfold AuthState.values
  rw [htext, hidentity]
  by_cases hname : Name.cookie = name
  · subst hname
    rfl
  · rw [if_neg hname]
    rfl

/-- The headers of a log-in with credentials that make sessions, name by name. -/
theorem Transaction.getAll_login {s : Settings} {c : Credentials} {tenant : Option String}
    {id : String} {now later : Instant} {r : Request} (hc : c.isSessionless = false)
    (h : (Transaction.login s c tenant).request id now later = .ok r) :
    ∃ login, checkName c.headerName = .ok login ∧ ∀ name, r.headers.getAll name =
      if login = name then [c.headerValue]
      else if Name.tenantContext = name ∧ tenant.isSome then tenant.toList
      else if Name.clientRequestId = name ∧ id ≠ "" then [id]
      else if Name.accept = name then [s.versioned Media.anyJson]
      else s.defaults.getAll name := by
  obtain ⟨url, -, h⟩ := Result.bind_eq_ok.1 h
  obtain ⟨bare, hbare, h⟩ := Result.bind_eq_ok.1 h
  obtain ⟨headers, hset, hsign⟩ := Result.bind_eq_ok.1 h
  obtain ⟨login, hlogin, hchecked⟩ := Result.bind_eq_ok.1 hset
  obtain ⟨-, rfl⟩ := (Headers.set?_eq_ok hlogin).1 hset
  rw [c.sign_of_sessions hc] at hsign
  cases hsign
  obtain ⟨opening, numbered, auth, hopening, hnumbered, hauth, ⟨-, rfl⟩ | ⟨d, hd, -⟩⟩ :=
    Attempt.request_eq_ok.1 hbare
  · obtain ⟨accept, haccept, hopening⟩ := Result.bind_eq_ok.1 hopening
    obtain ⟨-, rfl⟩ := checkValue_eq_ok.1 haccept
    cases hopening
    refine ⟨login, hlogin, fun name => ?_⟩
    dsimp only
    rw [Headers.getAll_set, Attempt.getAll_unsigned (by rintro p ⟨⟩),
      AuthState.getAll_authHeaders rfl hauth, AuthState.values_ofTenant,
      Attempt.getAll_numbered hnumbered, Headers.getAll_set]
    by_cases htenant : Name.tenantContext = name
    · cases tenant <;> simp [htenant]
    · simp [htenant]
  · cases hd

end CloudDirector
