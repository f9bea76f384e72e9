import CloudDirector.Proofs.Client.Assembly
import CloudDirector.Proofs.Credential.Signing
import CloudDirector.Proofs.Session.Sharing

/-!
# Coherent states

The parts of a state belong together: cookies come with a token, a token with a session, the
organization of an access token with that token, and a session with something that proves who is in
it. What a log-in gave can be sent, because it was visible text in a reply or because the request of
that log-in carried it. So a state that clients have reached, however their calls take turns, makes
a request impossible only by its tenant, or by a key that cannot sign it.
-/
namespace CloudDirector
open Http Time

theorem Http.Headers.set?_again {h h' : Headers} {name value : String}
    (hset : h.set? name value = .ok h') (other : Headers) :
    ∃ hs, other.set? name value = .ok hs := by
  obtain ⟨lowered, hname, hset⟩ := Result.bind_eq_ok.1 hset
  obtain ⟨checked, hvalue, -⟩ := Result.bind_eq_ok.1 hset
  exact ⟨_, Result.bind_eq_ok.2 ⟨lowered, hname, Result.bind_eq_ok.2 ⟨checked, hvalue, rfl⟩⟩⟩

/-- A request could carry the login header of credentials and be signed by them. -/
structure Credentials.HaveServed (c : Credentials) : Prop where
  header : ∃ h h' : Headers, h.set? c.headerName c.headerValue = .ok h'
  signed : c.HaveSigned

theorem withLoginHeader_haveServed {c : Credentials} {now : Instant} {bare r : Request}
    (h : withLoginHeader c now bare = .ok r) : c.HaveServed := by
  obtain ⟨headers, hset, hsign⟩ := Result.bind_eq_ok.1 h
  exact ⟨⟨_, headers, hset⟩, now, _, r, hsign⟩

theorem mem_cookieNames_of_mem_sessionCookies {h : Headers} {name v : String}
    (hmem : (name, v) ∈ sessionCookies h) : name ∈ AuthState.cookieNames := by
  have hlookup := (Keyed.Ascending.ofList _).mem_iff.1 hmem
  exact (sessionCookies_lookup hlookup).1

namespace AuthState

/-- The parts of a state belong together. -/
structure Consistent (x : AuthState) : Prop where
  cookieNames : ∀ name v, (name, v) ∈ x.cookies → name ∈ cookieNames
  cookies : x.cookies ≠ [] → x.token ≠ none
  token : x.token ≠ none → x.session ≠ none
  authContext : x.authContext ≠ none → x.jwt ≠ none
  session : x.session ≠ none → x.jwt ≠ none ∨ x.token ≠ none ∨ x.sessionless? ≠ none

/-- The parts belong together, and what a log-in gave can be used in every request. -/
structure Coherent (x : AuthState) : Prop where
  consistent : x.Consistent
  sendable : x.Sendable
  served : ∀ c, x.credentials = some c → c.HaveServed

theorem identityHeaders_of_sessionless {x : AuthState} {c : Credentials}
    (hc : x.sessionless? = some c) :
    x.identityHeaders = Headers.empty.set? c.headerName c.headerValue := by
  unfold identityHeaders
  rw [hc]

theorem authHeaders_of_sessionless {x : AuthState} {c : Credentials} {hs : Headers}
    (hc : x.sessionless? = some c) (hidentity : x.identityHeaders = .ok hs)
    (htenant : ∀ t, x.tenant = some t → isHeaderValue t = true) :
    ∃ hs, x.authHeaders = .ok hs := by
  unfold authHeaders
  rw [hidentity]
  cases ht : x.tenant with
  | none => simp [hc]
  | some t =>
    have hset := (Headers.set?_eq_ok (h := hs) Name.check_tenantContext).2 ⟨htenant t ht, rfl⟩
    simp [hc, hset]

theorem Coherent.served_sessionless {x : AuthState} (h : x.Coherent) {c : Credentials}
    (hc : x.sessionless? = some c) : c.HaveServed :=
  h.served c (Option.filter_eq_some_iff.1 hc).1

/-- A coherent state has its authentication headers just if its tenant is a header value. -/
theorem Coherent.authHeaders_iff {x : AuthState} (h : x.Coherent) :
    (∃ hs, x.authHeaders = .ok hs) ↔ ∀ t, x.tenant = some t → isHeaderValue t = true := by
  constructor
  · rintro ⟨hs, hauth⟩
    exact isHeaderValue_tenant hauth
  · intro htenant
    cases hc : x.sessionless? with
    | none => exact h.sendable.exists_authHeaders hc htenant
    | some c =>
      obtain ⟨_, _, hset⟩ := (h.served_sessionless hc).header
      obtain ⟨hs, hidentity⟩ := Headers.set?_again hset .empty
      rw [← identityHeaders_of_sessionless hc] at hidentity
      exact authHeaders_of_sessionless hc hidentity htenant

/-- What the authentication headers of a state show: its identity could be set, and so could its
cookies unless its credentials need none. -/
theorem of_authHeaders {x : AuthState} {hs : Headers} (h : x.authHeaders = .ok hs) :
    (∃ identity, x.identityHeaders = .ok identity) ∧
      (x.sessionless? = none → isHeaderValue x.cookieText = true) := by
  obtain ⟨identity, limited, hidentity, h⟩ : ∃ identity limited : Headers,
      x.identityHeaders = .ok identity ∧
        (if x.sessionless?.isNone ∧ x.cookieText ≠ "" then limited.set? Name.cookie x.cookieText
          else (pure limited : Result Headers)) = .ok hs := by
    unfold authHeaders at h
    obtain ⟨identity, hidentity, h⟩ := Result.bind_eq_ok.1 h
    cases ht : x.tenant with
    | none =>
      rw [ht] at h
      exact ⟨identity, identity, hidentity, h⟩
    | some t =>
      rw [ht] at h
      obtain ⟨limited, -, h⟩ := Result.bind_eq_ok.1 h
      exact ⟨identity, limited, hidentity, h⟩
  refine ⟨⟨identity, hidentity⟩, fun hnone => ?_⟩
  by_cases htext : x.cookieText = ""
  · rw [htext]
    rfl
  · rw [hnone, if_pos ⟨rfl, htext⟩] at h
    exact ((Headers.set?_eq_ok Name.check_cookie).1 h).1

theorem isHeaderValue_of_cookieText {x : AuthState} (h : isHeaderValue x.cookieText = true)
    {name v : String} (hname : name ∈ cookieNames) (hv : x.cookies.lookup name = some v) :
    isHeaderValue v = true := by
  have hpart : name ++ "=" ++ v ∈ cookieNames.filterMap fun name =>
      (x.cookies.lookup name).map fun value => name ++ "=" ++ value :=
    List.mem_filterMap.2 ⟨name, hname, by rw [hv]; rfl⟩
  have hvalid := isHeaderValue_of_intercalate h _ hpart
  rw [isHeaderValue_append, Bool.and_eq_true] at hvalid
  exact hvalid.2

theorem coherent_empty : empty.Coherent where
  consistent := ⟨nofun, fun hne => absurd rfl hne, fun hne => absurd rfl hne,
    fun hne => absurd rfl hne, fun hne => absurd rfl hne⟩
  sendable := ⟨nofun, nofun, nofun, nofun⟩
  served := nofun

theorem Coherent.with_tenant {x : AuthState} (h : x.Coherent) (tenant : Option String) :
    Coherent { x with tenant := tenant } where
  consistent := ⟨h.consistent.cookieNames, h.consistent.cookies, h.consistent.token,
    h.consistent.authContext, h.consistent.session⟩
  sendable := ⟨h.sendable.jwt, h.sendable.authContext, h.sendable.token, h.sendable.cookies⟩
  served := h.served

theorem Coherent.cleared {x : AuthState} (h : x.Coherent) : x.cleared.Coherent where
  consistent := ⟨nofun, fun hne => absurd rfl hne, fun hne => absurd rfl hne,
    fun hne => absurd rfl hne, fun hne => absurd rfl hne⟩
  sendable := ⟨nofun, nofun, nofun, nofun⟩
  served := h.served

theorem coherent_of_sessionless {tenant : Option String} {c : Credentials} {session : Session}
    (hsessionless : c.isSessionless = true) (hc : c.HaveServed) :
    Coherent { ofTenant tenant with credentials := some c, session := some session } where
  consistent := by
    refine ⟨nofun, fun hne => absurd rfl hne, fun hne => absurd rfl hne, fun hne => absurd rfl hne, ?_⟩
    intro _
    exact .inr (.inr (by simp [sessionless?, hsessionless]))
  sendable := ⟨nofun, nofun, nofun, nofun⟩
  served := by
    rintro _ ⟨⟩
    exact hc

theorem coherent_of_token {tenant : Option String} {t : SessionToken} {session : Session}
    (htoken : isHeaderValue t.token = true)
    (hcookie : ∀ v, t.cookie = some v → isHeaderValue v = true) :
    Coherent { ofTenant tenant with
      token := some t.token
      cookies := (t.cookie.map fun v => (CookieName.legacy, v)).toList
      session := some session } where
  consistent := by
    refine ⟨?_, fun _ => nofun, fun _ => nofun, fun hne => absurd rfl hne, fun _ => .inr (.inl nofun)⟩
    intro name v hmem
    obtain ⟨w, -, hw⟩ := Option.map_eq_some_iff.1 (Option.mem_toList.1 hmem)
    cases hw
    decide
  sendable := by
    refine ⟨nofun, nofun, ?_, ?_⟩
    · rintro _ ⟨⟩
      exact htoken
    · intro name v hv
      have hmem := Keyed.mem_of_lookup hv
      obtain ⟨w, hw, hpair⟩ := Option.map_eq_some_iff.1 (Option.mem_toList.1 hmem)
      cases hpair
      exact hcookie v hw
  served := nofun

theorem coherent_of_jwt {tenant context : Option String} {jwt : String} {session : Session}
    (hjwt : isHeaderValue jwt = true)
    (hcontext : ∀ v, context = some v → isHeaderValue v = true) :
    Coherent { ofTenant tenant with
      jwt := some jwt, authContext := context, session := some session } where
  consistent := ⟨nofun, fun hne => absurd rfl hne, fun hne => absurd rfl hne, fun _ => nofun,
    fun _ => .inl nofun⟩
  sendable := by
    refine ⟨?_, hcontext, nofun, nofun⟩
    rintro _ ⟨⟩
    exact hjwt
  served := nofun

theorem coherent_of_stateOfLogin {s : Settings} {c : Credentials} {tenant : Option String}
    {r : Reply} {t : AuthState} (hc : c.HaveServed) (h : stateOfLogin s c tenant r = .ok t) :
    t.Coherent := by
  obtain ⟨hcredentials, -, hsendable⟩ := of_stateOfLogin h
  have hconsistent : t.Consistent := by
    unfold stateOfLogin at h
    cases htoken : filledHeader r Name.legacyToken with
    | none => simp [htoken] at h
    | some token =>
      simp only [htoken] at h
      obtain ⟨session, -, h⟩ := Result.bind_eq_ok.1 h
      cases h
      exact ⟨fun name v => mem_cookieNames_of_mem_sessionCookies, fun _ => nofun, fun _ => nofun,
        fun hne => absurd rfl hne, fun _ => .inr (.inl nofun)⟩
  refine ⟨hconsistent, hsendable, fun d hd => ?_⟩
  rw [hcredentials] at hd
  cases hd
  exact hc

-- Token, cookies and session stay together, and the access token stands for the session in place of
-- sessionless credentials that were there before.
theorem Coherent.loggedIn {x : AuthState} (h : x.Coherent) {c : Credentials} {jwt : String}
    (hc : c.HaveServed) (hjwt : isHeaderValue jwt = true) :
    (OpenApi.loggedIn c jwt x).Coherent where
  consistent := ⟨h.consistent.cookieNames, h.consistent.cookies, h.consistent.token,
    fun hne => absurd rfl hne, fun _ => .inl nofun⟩
  sendable := by
    refine ⟨?_, nofun, h.sendable.token, h.sendable.cookies⟩
    rintro _ ⟨⟩
    exact hjwt
  served := by
    rintro _ ⟨⟩
    exact hc

end AuthState

/-- The request with which a session is joined shows that all that it carried can be sent. -/
theorem Candidate.coherent {s : Settings} {tenant : Option String} {x t : AuthState}
    (h : Candidate tenant x) (hyields : (Transaction.join s x).Yields t) : t.Coherent := by
  obtain ⟨id, now, later, request, o, hrequest, hstate⟩ := hyields
  obtain ⟨url, -, hrequest⟩ := Result.bind_eq_ok.1 hrequest
  obtain ⟨opening, numbered, auth, -, -, hauth, hsigned⟩ := Attempt.request_eq_ok.1 hrequest
  obtain ⟨reply, -, hstate⟩ := Result.bind_eq_ok.1 hstate
  obtain ⟨session, -, hstate⟩ := Result.bind_eq_ok.1 hstate
  obtain ⟨⟨identity, hidentity⟩, hcookies⟩ := AuthState.of_authHeaders hauth
  cases hstate
  cases h with
  | @credentials c hsessionless =>
    have hc : ({ AuthState.ofTenant tenant with credentials := some c } : AuthState).sessionless? =
        some c := by
      simp [AuthState.sessionless?, hsessionless]
    rw [AuthState.identityHeaders_of_sessionless hc] at hidentity
    rcases hsigned with ⟨hnone, -⟩ | ⟨d, hd, hsign⟩
    · cases hc.symm.trans hnone
    · obtain rfl := Option.some.inj (hc.symm.trans hd)
      exact AuthState.coherent_of_sessionless hsessionless
        ⟨⟨_, identity, hidentity⟩, now, _, request, hsign⟩
  | token t =>
    apply AuthState.coherent_of_token
    · exact ((Headers.set?_eq_ok Name.check_legacyToken).1 hidentity).1
    · intro v hv
      have hlegacy : CookieName.legacy ∈ AuthState.cookieNames := by decide
      apply AuthState.isHeaderValue_of_cookieText (hcookies rfl) hlegacy
      simp [hv]
  | jwt jwt context =>
    obtain ⟨bearer, hbearer, hcontext⟩ := Result.bind_eq_ok.1 hidentity
    have hjwt := ((Headers.set?_eq_ok Name.check_authorization).1 hbearer).1
    rw [isHeaderValue_append, Bool.and_eq_true] at hjwt
    apply AuthState.coherent_of_jwt hjwt.2
    rintro v rfl
    exact ((Headers.set?_eq_ok Name.check_authContext).1 hcontext).1

/-- No change that clients make takes the parts of a state apart, whatever its client saw. -/
theorem SessionChange.coherent {seen x : AuthState} {f : AuthState → AuthState}
    (h : SessionChange seen f) (hx : x.Coherent) : (f x).Coherent := by
  cases h with
  | login yields =>
    obtain ⟨id, now, later, request, o, hrequest, hstate⟩ := yields
    obtain ⟨url, -, hrequest⟩ := Result.bind_eq_ok.1 hrequest
    obtain ⟨bare, -, hrequest⟩ := Result.bind_eq_ok.1 hrequest
    obtain ⟨reply, -, hstate⟩ := Result.bind_eq_ok.1 hstate
    exact AuthState.coherent_of_stateOfLogin (withLoginHeader_haveServed hrequest) hstate
  | join candidate yields => exact candidate.coherent yields
  | @openApi s root c jwt yields =>
    obtain ⟨id, now, later, request, o, hrequest, hstate⟩ := yields
    obtain ⟨p, -, hrequest⟩ := Result.bind_eq_ok.1 hrequest
    obtain ⟨bare, -, hrequest⟩ := Result.bind_eq_ok.1 hrequest
    obtain ⟨reply, token, -, htoken, hsame⟩ := LoginWay.state_loginAt hstate
    obtain rfl : jwt = token := Option.some.inj (congrArg AuthState.jwt hsame)
    exact hx.loggedIn (withLoginHeader_haveServed hrequest) (isHeaderValue_of_filledHeader htoken)
  | clear => exact hx.cleared

theorem SharedContext.coherent_run (schedule : List ContextEvent) :
    (run schedule).auth.Coherent := by
  apply auth_induction
  · exact AuthState.coherent_empty
  · intro x tenant hx
    exact hx.with_tenant tenant
  · intro seen f x hf hx
    exact hf.coherent hx

/-- A coherent state lets a request be assembled that can be assembled without a session, unless it
has to be signed with a key whose parts do not belong together. -/
theorem AuthState.Coherent.request {x : AuthState} (h : x.Coherent) {s : Settings} {a : Attempt}
    {id : String} {now : Instant} {bare : Request}
    (hbare : Attempt.request s { a with state := .ofTenant x.tenant } id now = .ok bare) :
    (∃ r, Attempt.request s { a with state := x } id now = .ok r) ∨
      (x.sessionless? ≠ none ∧
        Attempt.request s { a with state := x } id now = .error (.signing (.sign .parts))) := by
  obtain ⟨opening, numbered, auth, hopening, hnumbered, hauth, -⟩ := Attempt.request_eq_ok.1 hbare
  have htenant : (AuthState.ofTenant x.tenant).authHeaders = .ok auth := hauth
  obtain ⟨hs, hheaders⟩ := h.authHeaders_iff.2 fun t ht => isHeaderValue_tenant htenant t ht
  have hsame : Attempt.openingHeaders s { a with state := x } = .ok opening := hopening
  unfold Attempt.request Attempt.closing
  simp only [hsame, hnumbered, hheaders, Result.ok_bind]
  cases hc : x.sessionless? with
  | none => exact .inl ⟨_, rfl⟩
  | some c =>
    rcases (h.served_sessionless hc).signed.again now
        (Attempt.unsigned { a with state := x } numbered hs) with ⟨r, hr⟩ | hparts
    · exact .inl ⟨r, hr⟩
    · exact .inr ⟨nofun, hparts⟩

/-- In every state that clients sharing a context reach the parts belong together, and its
authentication headers are missing only if its tenant is no header value. A request that can be
assembled under the tenant without a session can be assembled in the state, unless credentials sign
it with a key whose parts do not belong together. -/
theorem SharedContext.auth_coherent (schedule : List ContextEvent) :
    (run schedule).auth.Consistent ∧
      ((∃ hs, (run schedule).auth.authHeaders = .ok hs) ↔
        ∀ t, (run schedule).auth.tenant = some t → isHeaderValue t = true) ∧
      ∀ (s : Settings) (a : Attempt) (id : String) (now : Instant) (bare : Request),
        Attempt.request s { a with state := .ofTenant (run schedule).auth.tenant } id now = .ok bare →
          (∃ r, Attempt.request s { a with state := (run schedule).auth } id now = .ok r) ∨
            ((run schedule).auth.sessionless? ≠ none ∧
              Attempt.request s { a with state := (run schedule).auth } id now =
                .error (.signing (.sign .parts))) := by
  have h := coherent_run schedule
  exact ⟨h.consistent, h.authHeaders_iff, fun _ _ _ _ _ => h.request⟩

end CloudDirector
