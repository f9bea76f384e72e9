import CloudDirector.Proofs.Client.Layers
import CloudDirector.Proofs.Client.Steps
import CloudDirector.Proofs.Session.Coherence
import CloudDirector.Proofs.Session.Upholding

/-!
# Taking a session to another client

A session is taken to another client by its exported token, or by a duplicate that joins it with the
access token or the session token of its original. Either way the client asks for the session once,
and logs in nowhere. From then on its requests say the same of who is asking, whatever order its
calls take, until something logs in or out.
-/
namespace CloudDirector
open Http Time

variable {s : Settings}

/-- An event leaves some headers to the state: a call of a client whose defaults give these headers
the same values and whose plan names none of them, a step of a call, or another tenant unless its
header is among them. -/
inductive ContextEvent.Spares (names : List String) (defaults : Headers) : ContextEvent → Prop
  | request {s : Settings} {p : RequestPlan} {body : Option String}
    (client : ∀ name ∈ names, s.defaults.getAll name = defaults.getAll name)
    (plan : ∀ name ∈ names, name ∉ p.headers.fields.map Prod.fst) :
    Spares names defaults (.begins s (.request p body))
  | proceeds (i : Nat) (x : Answers) : Spares names defaults (.proceeds i x)
  | tenant (other : Name.tenantContext ∉ names) (t : Option String) :
    Spares names defaults (.setsTenant t)

theorem AuthState.values_with_tenant {x : AuthState} {t : Option String} {name : String}
    (h : Name.tenantContext ≠ name) : ({ x with tenant := t } : AuthState).values name = x.values name := by
  unfold values
  rw [if_neg h, if_neg h]
  rfl

theorem AuthState.sessionless_of_credentials {x : AuthState} (h : x.credentials = none) :
    x.sessionless? = none := by
  rw [sessionless?, h]
  rfl

/-- After events that leave some headers to the state, every request that is sent from a state
without credentials has the values that this state gives them. -/
theorem SharedContext.values_of_sends {y : AuthState} {names : List String} {defaults : Headers}
    {events : List ContextEvent} {r : Request} (hy : y.credentials = none)
    (hnames : ∀ name ∈ names, name ∉ clientNames)
    (hevents : ∀ e ∈ events, e.Spares names defaults)
    (hr : (events.foldl after ⟨y, []⟩).Sends r) :
    ∀ name ∈ names, r.headers.getAll name = y.valuesOver defaults name := by
  let inv (x : AuthState) : Prop :=
    x.credentials = none ∧ ∀ name ∈ names, x.values name = y.values name
  let fit (r : Request) : Prop :=
    ∀ name ∈ names, r.headers.getAll name = y.valuesOver defaults name
  have hkeeps : ∀ e ∈ events, Keeps inv fit e := by
    intro e he
    cases hevents e he with
    | proceeds i x => trivial
    | tenant other t =>
      rintro x ⟨hx, hvalues⟩
      refine ⟨hx, fun name hname => ?_⟩
      rw [AuthState.values_with_tenant fun heq => other (heq ▸ hname), hvalues name hname]
    | @request s p body client plan =>
      have hcall : (execute s p body).Upholds inv fit fun _ => True := by
        refine upholds_attempts (fun x hx => hx.1) (fun x id now r hx hr name hname => ?_) _ 1
        rw [Attempt.getAll_request hr (AuthState.sessionless_of_credentials hx.1)
          (hnames name hname) (by rintro q ⟨⟩; exact plan name hname)]
        change (if x.values name = [] then _ else x.values name) = _
        rw [hx.2 name hname, client name hname]
        rfl
      exact hcall.bind fun _ _ => Action.upholds_pure trivial
  have hstart : Upholds ⟨y, []⟩ inv fit := ⟨⟨hy, fun _ _ => rfl⟩, List.forall_mem_nil _⟩
  exact (hstart.foldl_after hkeeps).fit_of_sends hr

/-- A client can assemble the request that asks for its session, whichever number it gets. -/
structure Settings.CanAsk (s : Settings) : Prop where
  address : ∃ url, s.apiUrl sessionPath = .ok url
  accept : isHeaderValue (s.versioned Media.anyJson) = true
  numbers : ∀ id, s.requestIds.Gives id → isHeaderValue id = true
  connection : s.connection.check = .ok ()

/-- The tenant of a state is a header value, if it has one. -/
def AuthState.HasValidTenant (x : AuthState) : Prop :=
  ∀ t, x.tenant = some t → isHeaderValue t = true

/-- An exchange asks for the session on behalf of a state. -/
structure Exchange.Joins (e : Exchange) (s : Settings) (x : AuthState) : Prop where
  method : e.request.method = .get
  address : s.apiUrl sessionPath = .ok e.request.url
  values : ∀ name ∉ clientNames, e.request.headers.getAll name = x.valuesOver s.defaults name

theorem Settings.CanAsk.exists_request (hs : s.CanAsk) {x : AuthState} (hx : x.Sendable)
    (hnone : x.sessionless? = none) (htenant : x.HasValidTenant) {id : String} {now later : Instant}
    (hid : s.requestIds.Gives id) :
    ∃ r, (Transaction.join s x).request id now later = .ok r := by
  obtain ⟨url, hurl⟩ := hs.address
  obtain ⟨auth, hauth⟩ := hx.exists_authHeaders hnone htenant
  have hopening : Attempt.openingHeaders s ⟨x, .get, url, none, none⟩ =
      .ok (s.defaults.set Name.accept (s.versioned Media.anyJson)) :=
    Result.bind_eq_ok.2 ⟨_, checkValue_eq_ok.2 ⟨hs.accept, rfl⟩, rfl⟩
  obtain ⟨numbered, hnumbered⟩ : ∃ numbered, Attempt.numbered
      (s.defaults.set Name.accept (s.versioned Media.anyJson)) id = .ok numbered := by
    unfold Attempt.numbered
    split
    · exact ⟨_, rfl⟩
    · exact ⟨_, Result.bind_eq_ok.2 ⟨id, checkValue_eq_ok.2 ⟨hs.numbers id hid, rfl⟩, rfl⟩⟩
  obtain ⟨r, hr⟩ : ∃ r, Attempt.request s ⟨x, .get, url, none, none⟩ id now = .ok r :=
    ⟨_, Attempt.request_eq_ok.2 ⟨_, numbered, auth, hopening, hnumbered, hauth, .inl ⟨hnone, rfl⟩⟩⟩
  exact ⟨r, Result.bind_eq_ok.2 ⟨url, hurl, hr⟩⟩

/-- A client that can ask asks once, and installs the state on whose behalf it asked. -/
theorem Settings.CanAsk.joins (hs : s.CanAsk) {x st st' : AuthState} {history : List Exchange}
    {r : Result Unit} (hx : x.Sendable) (hnone : x.sessionless? = none)
    (htenant : x.HasValidTenant)
    (h : (Transaction.join s x).Runs s.requestIds st history r st') :
    ∃ e : Exchange, history = [e] ∧ e.Joins s x ∧
      (r = .ok () → ∃ session, st' = { x with session := some session }) := by
  obtain ⟨id, now, later, hid, ⟨_, hfault, -⟩ | ⟨request, o, hrequest, rfl, hinstalls⟩⟩ := h
  · obtain ⟨request, hrequest⟩ := hs.exists_request hx hnone htenant hid
    cases hfault.symm.trans hrequest
  · obtain ⟨url, hurl, hassembled⟩ := Result.bind_eq_ok.1 hrequest
    obtain ⟨hmethod, haddress, -⟩ := Attempt.request_target hassembled
    refine ⟨⟨request, o⟩, rfl, ⟨hmethod, haddress ▸ hurl, fun name hname => ?_⟩, ?_⟩
    · exact Attempt.getAll_request hassembled hnone hname (by rintro p ⟨⟩)
    · rintro rfl
      cases hstate : (Transaction.join s x).state o with
      | error e =>
        rw [hstate] at hinstalls
        cases hinstalls.1
      | ok t =>
        rw [hstate] at hinstalls
        obtain ⟨-, rfl⟩ := hinstalls
        obtain ⟨reply, -, hstate⟩ := Result.bind_eq_ok.1 hstate
        obtain ⟨session, -, hstate⟩ := Result.bind_eq_ok.1 hstate
        cases hstate
        exact ⟨session, rfl⟩

namespace SessionToken

def candidate (t : SessionToken) (tenant : Option String) : AuthState :=
  { AuthState.ofTenant tenant with
    token := some t.token
    cookies := (t.cookie.map fun v => (CookieName.legacy, v)).toList }

/-- The cookie that a token brings along, as it is sent. -/
def cookieValues (t : SessionToken) : List String :=
  (t.cookie.map fun v => CookieName.legacy ++ "=" ++ v).toList

theorem sessionToken_candidate (t : SessionToken) (tenant : Option String) :
    (t.candidate tenant).sessionToken? = some t := by
  obtain ⟨token, cookie⟩ := t
  cases cookie with
  | none => rfl
  | some v => simp [candidate, AuthState.sessionToken?]

theorem values_candidate_cookie (t : SessionToken) (tenant : Option String) :
    (t.candidate tenant).values Name.cookie = t.cookieValues := by
  obtain ⟨token, cookie⟩ := t
  cases cookie with
  | none => rfl
  | some v =>
    have htext : (candidate ⟨token, some v⟩ tenant).cookieText = CookieName.legacy ++ "=" ++ v := by
      have haccess : (CookieName.accessToken == CookieName.legacy) = false := rfl
      have hsession : (CookieName.session == CookieName.legacy) = false := rfl
      simp [AuthState.cookieText, AuthState.cookieNames, candidate, haccess, hsession,
        List.lookup_cons]
    have hne : CookieName.legacy ++ "=" ++ v ≠ "" := by simp
    unfold AuthState.values
    rw [if_pos rfl, htext]
    simp [cookieValues, hne]

/-- A token that a state exports can be sent if all that a log-in gave to the state can. -/
theorem sendable_candidate {t : SessionToken} {tenant : Option String} {x : AuthState}
    (hx : x.Sendable) (ht : x.sessionToken? = some t) : (t.candidate tenant).Sendable := by
  unfold AuthState.sessionToken? at ht
  obtain ⟨token, htoken, rfl⟩ := Option.map_eq_some_iff.1 ht
  refine ⟨nofun, nofun, ?_, fun name v hv => ?_⟩
  · rintro _ ⟨⟩
    exact hx.token token htoken
  · have hmem := Keyed.mem_of_lookup hv
    obtain ⟨w, hw, hpair⟩ := Option.map_eq_some_iff.1 (Option.mem_toList.1 hmem)
    cases hpair
    exact hx.cookies _ v hw

end SessionToken

theorem runs_loginWithToken {t : SessionToken} {st st' : AuthState} {history : List Exchange}
    {r : Result Unit} (h : (loginWithToken s t).Runs st history r st') :
    (Transaction.join s (t.candidate st.tenant)).Runs s.requestIds st history r st' := by
  unfold loginWithToken at h
  rw [Action.runs_getState_bind] at h
  exact runs_joinSession.1 h

/-- The names of headers by which a state that signs nothing says who is asking and for whom. -/
def identityNames : List String :=
  [Name.authorization, Name.authContext, Name.legacyToken, Name.tenantContext]

def AuthState.shared (x : AuthState) : AuthState :=
  match x.jwt with
  | some jwt => { ofTenant x.tenant with jwt := some jwt, authContext := x.authContext }
  | none =>
    match x.sessionToken? with
    | some t => t.candidate x.tenant
    | none => ofTenant x.tenant

theorem AuthState.shared_kept (x : AuthState) :
    x.shared.credentials = none ∧ x.shared.tenant = x.tenant := by
  unfold shared
  cases x.jwt with
  | some jwt => exact ⟨rfl, rfl⟩
  | none => cases x.sessionToken? <;> exact ⟨rfl, rfl⟩

/-- The shared state says the same of who is asking, and for whom. -/
theorem AuthState.values_shared (x : AuthState) :
    ∀ name ∈ identityNames, x.shared.values name = x.values name := by
  have hidentity (name : String) : x.shared.identityValues name = x.identityValues name := by
    unfold identityValues shared
    cases hjwt : x.jwt with
    | some jwt => simp
    | none =>
      unfold sessionToken?
      cases htoken : x.token with
      | none => rfl
      | some token => rfl
  intro name hname
  have hcookie : Name.cookie ≠ name := by
    rintro rfl
    exact absurd hname (by decide)
  unfold values
  rw [if_neg hcookie, if_neg hcookie, x.shared_kept.2, hidentity]

theorem AuthState.Sendable.shared {x : AuthState} (h : x.Sendable) : x.shared.Sendable := by
  unfold AuthState.shared
  cases hjwt : x.jwt with
  | some jwt => exact ⟨fun v hv => h.jwt v (hjwt.trans hv), h.authContext, nofun, nofun⟩
  | none =>
    cases ht : x.sessionToken? with
    | some t => exact SessionToken.sendable_candidate h ht
    | none => exact ⟨nofun, nofun, nofun, nofun⟩

theorem runs_joinAs_shared {x t : AuthState} {history : List Exchange} {r : Result Unit}
    (hheld : x.jwt ≠ none ∨ x.token ≠ none)
    (h : (joinAs s false x).Runs (.ofTenant x.tenant) history r t) :
    (Transaction.join s x.shared).Runs s.requestIds (.ofTenant x.tenant) history r t := by
  unfold joinAs at h
  unfold AuthState.shared
  simp only [Bool.false_eq_true, if_false] at h
  cases hjwt : x.jwt with
  | some jwt =>
    simp only [hjwt, loginWithJwt, Action.runs_getState_bind] at h
    exact runs_joinSession.1 h
  | none =>
    cases ht : x.sessionToken? with
    | some token =>
      simp only [hjwt, ht] at h
      exact runs_loginWithToken h
    | none =>
      have htoken : x.token = none := Option.map_eq_none_iff.1 ht
      exact absurd hheld (by simp [hjwt, htoken])

/-- A duplicate that shares the session of its original joins it on a context of its own. -/
theorem runs_duplicate_shared {x x' : AuthState} {history : List Exchange} {r : Result AuthState}
    (hcheck : s.connection.check = .ok ()) (hheld : x.jwt ≠ none ∨ x.token ≠ none)
    (h : (duplicate s false).Runs x history r x') : ∃ result t,
      (Transaction.join s x.shared).Runs s.requestIds (.ofTenant x.tenant) history result t ∧
        r = result.map fun _ => t := by
  unfold duplicate at h
  rw [hcheck] at h
  have hjoining := Action.runs_getState_bind.1 (Action.runs_ok_bind.1 h)
  obtain ⟨before, ⟨result, t⟩, u, after, hisolated, hresult, rfl⟩ :=
    Action.runs_program_bind.1 hjoining
  obtain ⟨hruns, -⟩ := Program.runs_isolate hisolated
  have hjoin : (joinAs s false x).Runs (.ofTenant x.tenant) before result t := by
    unfold Action.Runs
    exact hruns
  have hend : after = [] ∧ r = result.map fun _ => t := by
    cases result with
    | error e =>
      obtain ⟨rfl, rfl, -⟩ := Action.runs_error_bind.1 hresult
      exact ⟨rfl, rfl⟩
    | ok _ =>
      obtain ⟨rfl, rfl, -⟩ := Action.runs_pure.1 (Action.runs_ok_bind.1 hresult)
      exact ⟨rfl, rfl⟩
  obtain ⟨rfl, rfl⟩ := hend
  rw [List.append_nil]
  exact ⟨result, t, runs_joinAs_shared hheld hjoin, rfl⟩

/-- A request says of who is asking and for whom what a state says, over some defaults. -/
def Http.Request.Identifies (r : Request) (x : AuthState) (defaults : Headers) : Prop :=
  ∀ name ∈ identityNames, r.headers.getAll name = x.valuesOver defaults name

theorem AuthState.valuesOver_congr {x y : AuthState} {name : String}
    (h : x.values name = y.values name) (defaults : Headers) :
    x.valuesOver defaults name = y.valuesOver defaults name := by
  unfold valuesOver
  rw [h]

theorem not_mem_clientNames_of_identityNames :
    ∀ name ∈ identityNames, name ∉ clientNames := by decide

/-- A token is imported by one request, and from then on it is what a client sends and exports. -/
theorem Settings.CanAsk.imports (hs : s.CanAsk) {x y y' : AuthState} {t : SessionToken}
    {history : List Exchange} {r : Result Unit} (hx : x.Sendable) (ht : x.sessionToken? = some t)
    (hy : y.HasValidTenant) (h : (loginWithToken s t).Runs y history r y') :
    ∃ e : Exchange, history = [e] ∧ e.Joins s (t.candidate y.tenant) ∧
      (r = .ok () → y'.sessionToken? = some t ∧ ∀ events : List ContextEvent,
        (∀ event ∈ events, event.Spares [Name.legacyToken, Name.cookie] .empty) →
          ∀ request, (events.foldl SharedContext.after ⟨y', []⟩).Sends request →
            request.headers.getAll Name.legacyToken = [t.token] ∧
              request.headers.getAll Name.cookie = t.cookieValues) := by
  obtain ⟨e, rfl, hjoins, hinstalled⟩ :=
    hs.joins (SessionToken.sendable_candidate hx ht) rfl hy (runs_loginWithToken h)
  refine ⟨e, rfl, hjoins, fun hr => ?_⟩
  obtain ⟨session, rfl⟩ := hinstalled hr
  have hexported : ({ t.candidate y.tenant with session := some session } : AuthState).sessionToken? =
      some t := t.sessionToken_candidate y.tenant
  refine ⟨hexported, fun events hevents request hsends => ?_⟩
  have hvalues := SharedContext.values_of_sends rfl (by decide) hevents hsends
  have htoken := hvalues Name.legacyToken (by decide)
  have hcookie := hvalues Name.cookie (by decide)
  refine ⟨htoken, hcookie.trans ?_⟩
  have hsame : ({ t.candidate y.tenant with session := some session } : AuthState).values
      Name.cookie = t.cookieValues := t.values_candidate_cookie y.tenant
  unfold AuthState.valuesOver
  rw [hsame, Headers.getAll_empty]
  exact ite_eq_right_iff.2 Eq.symm

/-- A duplicate shares a session by one request, and from then on says what its original says. -/
theorem Settings.CanAsk.shares (hs : s.CanAsk) {x x' : AuthState} {history : List Exchange}
    {r : Result AuthState} (hx : x.Sendable) (hheld : x.jwt ≠ none ∨ x.token ≠ none)
    (htenant : x.HasValidTenant) (h : (duplicate s false).Runs x history r x') :
    ∃ e : Exchange, history = [e] ∧ e.Joins s x.shared ∧
      e.request.Identifies x s.defaults ∧ ∀ y, r = .ok y → ∀ events : List ContextEvent,
        (∀ event ∈ events, event.Spares identityNames s.defaults) →
          ∀ request, (events.foldl SharedContext.after ⟨y, []⟩).Sends request →
            request.Identifies x s.defaults := by
  obtain ⟨hnone, hkept⟩ := x.shared_kept
  have hvalid : x.shared.HasValidTenant := by
    unfold AuthState.HasValidTenant
    rwa [hkept]
  obtain ⟨result, t, hjoin, rfl⟩ := runs_duplicate_shared hs.connection hheld h
  obtain ⟨e, rfl, hjoins, hinstalled⟩ :=
    hs.joins hx.shared (AuthState.sessionless_of_credentials hnone) hvalid hjoin
  refine ⟨e, rfl, hjoins, fun name hname => ?_, fun y hy events hevents request hsends name hname => ?_⟩
  · rw [hjoins.values name (not_mem_clientNames_of_identityNames name hname)]
    exact AuthState.valuesOver_congr (x.values_shared name hname) _
  · cases result with
    | error e => cases hy
    | ok _ =>
      cases hy
      obtain ⟨session, rfl⟩ := hinstalled rfl
      have hvalues := SharedContext.values_of_sends (y := { x.shared with session := some session })
        hnone not_mem_clientNames_of_identityNames hevents hsends
      rw [hvalues name hname]
      exact AuthState.valuesOver_congr (x.values_shared name hname) _

namespace SharedContext

/-- In every state that clients reach, a session can be taken to another client that can ask for it.
A client that imports the exported token asks for the session once and then exports the same token,
which all of its requests carry, with no cookie but that of the token. A duplicate that shares the
session asks for it once too; then and ever after its requests say of who is asking and for whom what
those of its original say. -/
theorem session_transfers (schedule : List ContextEvent) (s : Settings) (hs : s.CanAsk) :
    (∀ (t : SessionToken) (y : AuthState), (run schedule).auth.sessionToken? = some t →
      y.HasValidTenant → (loginWithToken s t).Ensures y fun history r y' =>
        ∃ e : Exchange, history = [e] ∧ e.request.method = .get ∧
          s.apiUrl sessionPath = .ok e.request.url ∧
          (r = .ok () → y'.sessionToken? = some t ∧ ∀ events : List ContextEvent,
            (∀ event ∈ events, event.Spares [Name.legacyToken, Name.cookie] .empty) →
              ∀ request, (events.foldl after ⟨y', []⟩).Sends request →
                request.headers.getAll Name.legacyToken = [t.token] ∧
                  request.headers.getAll Name.cookie = t.cookieValues)) ∧
    ((run schedule).auth.sessionless? = none →
      ((run schedule).auth.jwt ≠ none ∨ (run schedule).auth.token ≠ none) →
      (run schedule).auth.HasValidTenant →
        (duplicate s false).Ensures (run schedule).auth fun history r _ =>
          ∃ e : Exchange, history = [e] ∧ e.request.method = .get ∧
            s.apiUrl sessionPath = .ok e.request.url ∧
            e.request.Identifies (run schedule).auth s.defaults ∧
            (∀ (p : RequestPlan) (body : Option String) (own : Exchange),
              (∀ name ∈ identityNames, name ∉ p.headers.fields.map Prod.fst) →
                own.Attempts s p body (run schedule).auth →
                  own.request.Identifies (run schedule).auth s.defaults) ∧
            ∀ y, r = .ok y → ∀ events : List ContextEvent,
              (∀ event ∈ events, event.Spares identityNames s.defaults) →
                ∀ request, (events.foldl after ⟨y, []⟩).Sends request →
                  request.Identifies (run schedule).auth s.defaults) := by
  have hx := (coherent_run schedule).sendable
  simp only [Action.ensures_iff]
  refine ⟨fun t y ht hy history r y' h => ?_, fun hnone hheld htenant history r x' h => ?_⟩
  · obtain ⟨e, hhistory, hjoins, hlater⟩ := hs.imports hx ht hy h
    exact ⟨e, hhistory, hjoins.method, hjoins.address, hlater⟩
  · obtain ⟨e, hhistory, hjoins, hidentifies, hlater⟩ := hs.shares hx hheld htenant h
    refine ⟨e, hhistory, hjoins.method, hjoins.address, hidentifies, ?_, hlater⟩
    rintro p body own hplan ⟨id, now, -, hown⟩ name hname
    exact Attempt.getAll_request hown hnone (not_mem_clientNames_of_identityNames name hname)
      (by rintro q ⟨⟩; exact hplan name hname)

/-- The address of an interface. -/
private def sampleEndpoint : Url :=
  ⟨"https".toList, some ⟨[], none, "vcd".toList, none⟩, .segments ["api".toList, []], none, none⟩

/-- A login of a client with a standard configuration, step by step. -/
private def sampleLogin : List ContextEvent :=
  let s : Settings := { Settings.ofEndpoint sampleEndpoint with requestIds := .off }
  let welcome : Answers := { (default : Answers) with
    id := ""
    outcome := .reply ⟨.ok,
      ⟨[(Name.legacyToken, "t"), (Name.setCookie, "vcloud-token=c")]⟩, "\x7b\x7d"⟩ }
  .begins s (.enter (.login (.basic ⟨"alice", "org", "secret"⟩))) ::
    List.replicate 6 (.proceeds 0 welcome)

/-- A call that asks for what is at that address, up to its exchange. -/
private def sampleCall : List ContextEvent :=
  let s : Settings := { Settings.ofEndpoint sampleEndpoint with requestIds := .off }
  .begins s (.request (.make .get sampleEndpoint) none) ::
    List.replicate 3 (.proceeds 0 { (default : Answers) with id := "" })

/-- After a login the token is imported by a client that is answered with a session, and the session
is shared with a duplicate that is answered alike. Both go on to make a call. -/
theorem session_transfers_of_login : ∃ (schedule call : List ContextEvent) (s : Settings)
    (t : SessionToken) (e f : Exchange) (y z x : AuthState) (r q : Request),
      s.CanAsk ∧ (run schedule).auth.sessionToken? = some t ∧ t.cookieValues = ["vcloud-token=c"] ∧
      (loginWithToken s t).Runs .empty [e] (.ok ()) y ∧ y.sessionToken? = some t ∧
      (call.foldl after ⟨y, []⟩).Sends r ∧ r.headers.getAll Name.legacyToken = ["t"] ∧
      r.headers.getAll Name.cookie = ["vcloud-token=c"] ∧
      (duplicate s false).Runs (run schedule).auth [f] (.ok z) x ∧ f.request.method = .get ∧
      f.request.Identifies (run schedule).auth s.defaults ∧
      (call.foldl after ⟨z, []⟩).Sends q ∧ q.Identifies (run schedule).auth s.defaults ∧
      (run schedule).auth.values Name.legacyToken = ["t"] := by
  let s : Settings := { Settings.ofEndpoint sampleEndpoint with requestIds := .off }
  let t : SessionToken := ⟨"t", some "c"⟩
  have hs : s.CanAsk := by
    refine ⟨Result.exists_of_isOk (by decide +kernel), by decide, ?_, if_pos (by decide)⟩
    rintro _ rfl
    decide
  have ht : (run sampleLogin).auth.sessionToken? = some t := by decide +kernel
  obtain ⟨hnone, htoken, htenant, hvalues⟩ : (run sampleLogin).auth.sessionless? = none ∧
      (run sampleLogin).auth.token ≠ none ∧ (run sampleLogin).auth.tenant = none ∧
      (run sampleLogin).auth.values Name.legacyToken = ["t"] := by
    decide +kernel
  have hvalid : (run sampleLogin).auth.HasValidTenant := by
    unfold AuthState.HasValidTenant
    rw [htenant]
    exact nofun
  have hspares (names : List String) (defaults : Headers)
      (hdefaults : ∀ name ∈ names, s.defaults.getAll name = defaults.getAll name) :
      ∀ event ∈ sampleCall, event.Spares names defaults := by
    refine List.forall_mem_cons.2 ⟨.request hdefaults fun _ _ => List.not_mem_nil, ?_⟩
    intro event hevent
    obtain rfl := List.eq_of_mem_replicate hevent
    exact .proceeds _ _
  let welcome : Outcome := .reply ⟨.ok, .empty, "\x7b\x7d"⟩
  let w (st : AuthState) : World := ⟨st, none, fun _ => 0, 0, default, .scripted [welcome]⟩
  obtain ⟨himports, hshares⟩ := session_transfers sampleLogin s hs
  -- The token is imported, and its client makes a call.
  let imported := (loginWithToken s t).runIn (w .empty)
  have hok : imported.1 = .ok () := by decide +kernel
  obtain ⟨r, hr⟩ : ∃ r, r ∈ (sampleCall.foldl after ⟨imported.2.auth, []⟩).requests :=
    List.exists_mem_of_ne_nil _ (by decide +kernel)
  have himport := Action.runs_exchanges (loginWithToken s t) (w .empty)
  rw [show ((loginWithToken s t).runIn (w .empty)).1 = .ok () from hok] at himport
  obtain ⟨e, hsent, -, -, hlater⟩ := (himports t .empty ht nofun).2 _ _ _ himport
  obtain ⟨hexported, hcarries⟩ := hlater rfl
  obtain ⟨hlegacy, hcookie⟩ :=
    hcarries sampleCall (hspares _ _ fun _ _ => rfl) r (sends_iff.2 hr)
  rw [hsent] at himport
  -- The session is shared, and the duplicate makes a call.
  let shared := (duplicate s false).runIn (w (run sampleLogin).auth)
  obtain ⟨z, hz, hcalls⟩ : ∃ z, shared.1 = .ok z ∧
      (sampleCall.foldl after ⟨z, []⟩).requests.isEmpty = false :=
    Result.map_eq_ok.1 (by decide +kernel)
  obtain ⟨q, hq⟩ := List.exists_mem_of_ne_nil _ (List.isEmpty_eq_false_iff.1 hcalls)
  have hshare := Action.runs_exchanges (duplicate s false) (w (run sampleLogin).auth)
  rw [show ((duplicate s false).runIn (w (run sampleLogin).auth)).1 = .ok z from hz] at hshare
  obtain ⟨f, hasked, hget, -, hidentifies, -, hsame⟩ :=
    (hshares hnone (.inr htoken) hvalid).2 _ _ _ hshare
  rw [hasked] at hshare
  exact ⟨sampleLogin, sampleCall, s, t, e, f, _, z, _, r, q, hs, ht, by decide, himport, hexported,
    sends_iff.2 hr, hlegacy, hcookie, hshare, hget, hidentifies, sends_iff.2 hq,
    hsame z rfl sampleCall (hspares _ _ fun _ _ => rfl) q (sends_iff.2 hq), hvalues⟩

/-- A client whose locations are no header value imports no token, since it can ask for nothing. -/
theorem not_transferred_to_unfit : ∃ (schedule : List ContextEvent) (d : Draft) (s : Settings)
    (t : SessionToken), d.locations = some "a\nb" ∧ d.finish = .ok s ∧
      (run schedule).auth.sessionToken? = some t ∧
      ∀ history r y, (loginWithToken s t).Runs .empty history r y → history = [] ∧ r ≠ .ok () := by
  let d : Draft := { Draft.empty with
    endpoint := some sampleEndpoint, locations := some "a\nb", requestIds := .off }
  let s : Settings := { Settings.ofEndpoint sampleEndpoint with
    locations := some "a\nb", requestIds := .off }
  let t : SessionToken := ⟨"t", some "c"⟩
  have hfinish : d.finish = .ok s := by
    have hcheck : Connection.standard.check = .ok () := if_pos (by decide)
    simp only [Draft.finish, Draft.empty, d, hcheck]
    rfl
  have ht : (run sampleLogin).auth.sessionToken? = some t := by decide +kernel
  refine ⟨sampleLogin, d, s, t, rfl, hfinish, ht, fun history r y h => ?_⟩
  have hjoin : (Transaction.join s (t.candidate AuthState.empty.tenant)).Runs s.requestIds .empty
      history r y := runs_loginWithToken h
  have hfault (id : String) (now later : Instant) :
      (Transaction.join s (t.candidate AuthState.empty.tenant)).request id now later =
        .error (.configuration .headerValue) := by
    obtain ⟨url, hurl⟩ : ∃ url, s.apiUrl sessionPath = .ok url :=
      Result.exists_of_isOk (by decide +kernel)
    have hvalue : checkValue (s.versioned Media.anyJson) = .error (.configuration .headerValue) :=
      if_neg (by decide +kernel)
    simp only [Transaction.join, hurl, Result.ok_bind, Attempt.request, Attempt.openingHeaders,
      Option.bind_none, Option.getD_none, hvalue, Result.error_bind]
  obtain ⟨rfl, rfl, -⟩ := (Transaction.runs_of_error hfault).1 hjoin
  refine ⟨rfl, fun hr => ?_⟩
  cases hr

end SharedContext

end CloudDirector
