import CloudDirector.Client.NetworkProxy
import CloudDirector.Proofs.Client.Layers
import CloudDirector.Proofs.Client.Limits

/-!
# The log-in on the way of a call

A client makes calls by itself, through the newer interface and through the network proxy. When a
session has expired on the way of a call, the client logs in again with the settings of that call.
The log-ins of all calls are alike but for one header: the network proxy is asked without a version
of the interface, and so is the session.
-/
namespace CloudDirector
open Http Json Time

variable {s : Settings} {st st' : AuthState} {history : List Exchange}

/-- What is exchanged between two attempts is a log-in that is due. -/
theorem login_of_beforeRetry {f : Failure} {o : Outcome} {e : Exchange} {r : Result Unit}
    (ho : o.result = .error f) (h : (beforeRetry s st f).Runs st [e] r st') :
    ∃ c, RenewalDue s st o c ∧ ∃ id now later, s.requestIds.Gives id ∧
      (Transaction.login s c st.tenant).request id now later = .ok e.request := by
  obtain ⟨-, hnil, -, -⟩ | ⟨c, hdue, hlogin⟩ := runs_beforeRetry ho h
  · cases hnil
  refine ⟨c, hdue, ?_⟩
  rcases hlogin with ⟨e', hsame, hin, -⟩ | ⟨_, hfails, -⟩
  · cases hsame
    exact hin.request
  · obtain ⟨id, now, later, hid, ⟨_, -, hnil, -⟩ | ⟨request, o', hrequest, hsame, -⟩⟩ := hfails
    · cases hnil
    · cases hsame
      exact ⟨id, now, later, hid, hrequest⟩

/-- Between two attempts neither the credentials nor the tenant change. -/
theorem kept_by_beforeRetry {f : Failure} {o : Outcome} (ho : o.result = .error f)
    (h : (beforeRetry s st f).Runs st history (.ok ()) st') :
    st'.credentials = st.credentials ∧ st'.tenant = st.tenant := by
  obtain ⟨-, -, -, rfl⟩ | ⟨c, hdue, ⟨e, -, hin, -⟩ | ⟨_, -, hr⟩⟩ := runs_beforeRetry ho h
  · exact ⟨rfl, rfl⟩
  · obtain ⟨reply, hreply⟩ := hin.exists_reply
    obtain ⟨hcredentials, htenant, -⟩ := AuthState.of_stateOfLogin hreply
    exact ⟨hcredentials.trans hdue.credentials.symm, htenant⟩
  · cases hr

namespace CallRounds

variable {p : RequestPlan} {body : Option String} {n : Nat} {rounds : List Round}
  {r : Result (Reply × Nat)}

/-- All attempts of a call are made with the same credentials and for the same tenant. -/
theorem kept (h : CallRounds s p body n st rounds r st') :
    ∀ x ∈ rounds, x.state.credentials = st.credentials ∧ x.state.tenant = st.tenant := by
  induction h with
  | unfit number fault => exact List.forall_mem_nil _
  | answered sent outcome => simp
  | failed sent outcome stops => simp
  | renewalFailed sent outcome retries between => simp
  | again sent outcome retries between more ih =>
    obtain ⟨hcredentials, htenant⟩ := kept_by_beforeRetry outcome between
    refine List.forall_mem_cons.2 ⟨⟨rfl, rfl⟩, fun x hx => ?_⟩
    obtain ⟨hx, hx'⟩ := ih x hx
    exact ⟨hx.trans hcredentials, hx'.trans htenant⟩

/-- Every log-in of a call follows an attempt after which it is due. -/
theorem login_due (h : CallRounds s p body n st rounds r st') : ∀ x ∈ rounds, ∀ e,
    x.login = some e → ∃ c, RenewalDue s x.state x.target.outcome c ∧
      ∃ id now later, s.requestIds.Gives id ∧
        (Transaction.login s c x.state.tenant).request id now later = .ok e.request := by
  induction h with
  | unfit number fault => exact List.forall_mem_nil _
  | answered sent outcome => simp
  | failed sent outcome stops => simp
  | renewalFailed sent outcome retries between =>
    intro x hx e he
    obtain rfl := List.mem_singleton.1 hx
    obtain rfl : _ = some e := he
    exact login_of_beforeRetry outcome between
  | again sent outcome retries between more ih =>
    refine List.forall_mem_cons.2 ⟨fun e he => ?_, ih⟩
    obtain rfl : _ = some e := he
    exact login_of_beforeRetry outcome between

theorem target_sent (h : CallRounds s p body n st rounds r st') :
    ∀ x ∈ rounds, x.target.Attempts s p body x.state := by
  induction h with
  | unfit number fault => exact List.forall_mem_nil _
  | answered sent outcome => simpa using sent
  | failed sent outcome stops => simpa using sent
  | renewalFailed sent outcome retries between => simpa using sent
  | again sent outcome retries between more ih => exact List.forall_mem_cons.2 ⟨sent, ih⟩

end CallRounds

/-- The calls of a client: its own, those through the newer interface, and those through the
network proxy. -/
inductive ClientCall where
  | own (p : RequestPlan) (contents : Option Contents)
  | openApi (root : Url) (method : Method) (path : String) (contents : Option Contents)
  | network (root : Url) (method : Method) (path : String) (contents : Option (String × String))

namespace ClientCall

def action (s : Settings) : ClientCall → Action (Response Unit)
  | .own p contents => callRaw s p contents
  | .openApi root method path contents => OpenApi.callRaw s root method path contents
  | .network root method path contents => NetworkProxy.call s root method path contents

def settings (s : Settings) : ClientCall → Settings
  | .network _ _ _ _ => NetworkProxy.settings s
  | _ => s

def IsNetwork : ClientCall → Prop
  | .network _ _ _ _ => True
  | _ => False

def asked : ClientCall → Result (RequestPlan × Option String)
  | .own p contents => do return (p, ← Contents.encodeOption contents)
  | .openApi root method path contents => do
    let p ← OpenApi.plan root method path
    return (p, ← Contents.encodeOption contents)
  | .network root method path contents => do
    let plan := { RequestPlan.make method (← relativeUrl root path) with
      accept := some Media.xml
      contentType := contents.map Prod.fst }
    return (plan, contents.map Prod.snd)

def method : ClientCall → Method
  | .own p _ => p.method
  | .openApi _ method _ _ => method
  | .network _ method _ _ => method

theorem asked_method {k : ClientCall} {x : RequestPlan × Option String} (h : k.asked = .ok x) :
    x.1.method = k.method := by
  cases k with
  | own p contents =>
    obtain ⟨body, -, h⟩ := Result.bind_eq_ok.1 h
    cases h
    rfl
  | openApi root method path contents =>
    obtain ⟨p, hp, h⟩ := Result.bind_eq_ok.1 h
    obtain ⟨body, -, h⟩ := Result.bind_eq_ok.1 h
    obtain ⟨url, -, hp⟩ := Result.bind_eq_ok.1 hp
    cases h
    cases hp
    rfl
  | network root method path contents =>
    obtain ⟨url, -, h⟩ := Result.bind_eq_ok.1 h
    cases h
    rfl

/-- Every call sends its request with the settings of the call. -/
theorem action_eq (s : Settings) (k : ClientCall) :
    k.action s = (do
      let x ← (liftM k.asked : Action (RequestPlan × Option String))
      callText (k.settings s) x.1 x.2) := by
  cases k with
  | own p contents =>
    simp only [action, asked, callRaw]
    cases Contents.encodeOption contents <;> rfl
  | openApi root method path contents =>
    simp only [action, asked, OpenApi.callRaw, callRaw]
    cases OpenApi.plan root method path with
    | error e => rfl
    | ok p => cases Contents.encodeOption contents <;> rfl
  | network root method path contents =>
    simp only [action, asked, NetworkProxy.call]
    cases relativeUrl root path <;> rfl

/-- What a call makes of a context: nothing if there is no request to make, else the rounds of the
attempts at its request. -/
inductive Takes (s : Settings) (k : ClientCall) (st : AuthState) : List Round → AuthState → Prop
  | unasked {e : Error} (fault : k.asked = .error e) : Takes s k st [] st
  | rounds {p : RequestPlan} {body : Option String} {rounds : List Round}
    {r : Result (Reply × Nat)} {st' : AuthState} (request : k.asked = .ok (p, body))
    (course : CallRounds (k.settings s) p body 1 st rounds r st') : Takes s k st rounds st'

theorem exists_rounds {k : ClientCall} {r : Result (Response Unit)}
    (h : (k.action s).Runs st history r st') :
    ∃ rounds, k.Takes s st rounds st' ∧ history = rounds.flatMap Round.exchanges := by
  rw [action_eq] at h
  cases hasked : k.asked with
  | error e =>
    rw [hasked, Action.runs_error_bind] at h
    obtain ⟨rfl, -, rfl⟩ := h
    exact ⟨[], .unasked hasked, rfl⟩
  | ok x =>
    obtain ⟨p, body⟩ := x
    rw [hasked, Action.runs_ok_bind] at h
    obtain ⟨r', hexecute⟩ : ∃ r', (execute (k.settings s) p body).Runs st history r' st' := by
      unfold callText at h
      obtain ⟨e, he, -⟩ | ⟨before, x, t, after, hexecute, hend, rfl⟩ := Action.runs_bind.1 h
      · exact ⟨_, he⟩
      · obtain ⟨rfl, -, rfl⟩ := Action.runs_pure.1 hend
        rw [List.append_nil]
        exact ⟨_, hexecute⟩
    have hbound : (k.settings s).classifier.bound ≤ (k.settings s).classifier.bound - 1 + 1 := by
      omega
    obtain ⟨rounds, hhistory, hrounds⟩ := CloudDirector.exists_rounds hbound hexecute
    exact ⟨rounds, .rounds hasked hrounds, hhistory⟩

/-- In a run of a call from the state `st` an exchange is the log-in after a denied attempt. -/
def Renews (s : Settings) (k : ClientCall) (st : AuthState) (e : Exchange) : Prop :=
  ∃ history r st', (k.action s).Runs st history r st' ∧ ∃ rounds, k.Takes s st rounds st' ∧
    history = rounds.flatMap Round.exchanges ∧ ∃ x ∈ rounds, x.login = some e

/-- What a call exchanges by another method than its own is a log-in. -/
theorem renews_of_mem {k : ClientCall} {r : Result (Response Unit)} {e : Exchange}
    (h : (k.action s).Runs st history r st') (he : e ∈ history)
    (hother : e.request.method ≠ k.method) : k.Renews s st e := by
  obtain ⟨rounds, htakes, rfl⟩ := exists_rounds h
  obtain ⟨x, hx, hmem⟩ := List.mem_flatMap.1 he
  rcases List.mem_cons.1 hmem with rfl | hlogin
  · cases htakes with
    | unasked fault => cases hx
    | rounds request course =>
      rw [(course.target_sent x hx).target.1] at hother
      exact absurd (asked_method request) hother
  · exact ⟨_, r, st', h, rounds, htakes, rfl, x, hx, Option.mem_toList.1 hlogin⟩

/-- The log-in on the way of a call is that of the session's own credentials and tenant, with the
settings of the call. -/
theorem Renews.login {k : ClientCall} {e : Exchange} (h : k.Renews s st e) :
    ∃ c, st.credentials = some c ∧ c.isSessionless = false ∧ ∃ id now later,
      s.requestIds.Gives id ∧
        (Transaction.login (k.settings s) c st.tenant).request id now later = .ok e.request := by
  obtain ⟨-, -, st', -, rounds, htakes, -, x, hx, he⟩ := h
  cases htakes with
  | unasked fault => cases hx
  | rounds request course =>
    obtain ⟨c, hdue, id, now, later, hid, hrequest⟩ := course.login_due x hx e he
    obtain ⟨hcredentials, htenant⟩ := course.kept x hx
    have hids : (k.settings s).requestIds = s.requestIds := by cases k <;> rfl
    rw [hids] at hid
    rw [htenant] at hrequest
    exact ⟨c, hcredentials.symm.trans hdue.credentials, hdue.sessions, id, now, later, hid, hrequest⟩

end ClientCall

/-- Two requests are the same but for the values of some headers. -/
structure Http.Request.AgreesExcept (names : List String) (r q : Request) : Prop where
  method : r.method = q.method
  url : r.url = q.url
  body : r.body = q.body
  headers : ∀ name ∉ names, r.headers.getAll name = q.headers.getAll name

/-- A provider numbers all requests or none. -/
theorem RequestIds.Gives.eq_empty_iff {ids : RequestIds} {a b : String} (ha : ids.Gives a)
    (hb : ids.Gives b) : a = "" ↔ b = "" := by
  cases ids with
  | off => simp_all [Gives]
  | fixed text => simp_all [Gives]
  | random =>
    obtain ⟨n, rfl⟩ := ha
    obtain ⟨m, rfl⟩ := hb
    simp [Uuid.text, Uuid.grouped]
  | counted start c =>
    obtain ⟨n, rfl⟩ := ha
    obtain ⟨m, rfl⟩ := hb
    simp

theorem NetworkProxy.versioned_settings_iff (s : Settings) (mediaType : String) :
    (NetworkProxy.settings s).versioned mediaType = s.versioned mediaType ↔ s.version = none := by
  unfold Settings.versioned
  cases s.version with
  | none => simp [settings]
  | some v =>
    have hlonger : mediaType ≠ mediaType ++ (";version=" ++ v.label) := by
      intro h
      have hlength := congrArg (fun text => text.toList.length) h
      simp at hlength
    simpa [settings] using hlonger

theorem Transaction.login_body {c : Credentials} {tenant : Option String} {id : String}
    {now later : Instant} {r : Request}
    (h : (Transaction.login s c tenant).request id now later = .ok r) : r.body = none := by
  obtain ⟨url, -, h⟩ := Result.bind_eq_ok.1 h
  obtain ⟨bare, hbare, h⟩ := Result.bind_eq_ok.1 h
  rw [(withLoginHeader_target h).2.2, (Attempt.request_target hbare).2.2]

/-- Log-ins of clients that differ in version and connection at most agree but for what they ask
for and their numbers. -/
theorem Transaction.login_agreesExcept {s s' : Settings} {c : Credentials} {tenant : Option String}
    {id id' : String} {now now' later later' : Instant} {r q : Request}
    (hc : c.isSessionless = false) (hendpoint : s'.endpoint = s.endpoint)
    (hdefaults : s'.defaults = s.defaults) (hid : id' = "" ↔ id = "")
    (hr : (Transaction.login s' c tenant).request id' now' later' = .ok r)
    (hq : (Transaction.login s c tenant).request id now later = .ok q) :
    r.AgreesExcept [Name.accept, Name.clientRequestId] q ∧
      (r.headers.getAll Name.clientRequestId = [] ↔ q.headers.getAll Name.clientRequestId = []) ∧
      (r.headers.getAll Name.accept = q.headers.getAll Name.accept ↔
        checkName c.headerName = .ok Name.accept ∨
          s'.versioned Media.anyJson = s.versioned Media.anyJson) := by
  obtain ⟨hpost, hurl⟩ := Transaction.login_target hr
  obtain ⟨hpost', hurl'⟩ := Transaction.login_target hq
  obtain ⟨login, hlogin, hvalues⟩ := Transaction.getAll_login hc hr
  obtain ⟨login', hlogin', hvalues'⟩ := Transaction.getAll_login hc hq
  obtain rfl : login = login' := Except.ok.inj (hlogin.symm.trans hlogin')
  have haddress : s'.apiUrl sessionsPath = s.apiUrl sessionsPath := by
    unfold Settings.apiUrl
    rw [hendpoint]
  rw [haddress, hurl'] at hurl
  refine ⟨⟨hpost.trans hpost'.symm, (Except.ok.inj hurl).symm, ?_, fun name hname => ?_⟩, ?_, ?_⟩
  · rw [Transaction.login_body hr, Transaction.login_body hq]
  · simp only [List.mem_cons, List.not_mem_nil, or_false, not_or] at hname
    rw [hvalues, hvalues', hdefaults]
    simp [Ne.symm hname.1, Ne.symm hname.2]
  · have htenant : Name.tenantContext ≠ Name.clientRequestId := by decide
    have haccept : Name.accept ≠ Name.clientRequestId := by decide
    rw [hvalues, hvalues', hdefaults]
    by_cases hname : login = Name.clientRequestId
    · simp [hname]
    · by_cases hempty : id = "" <;> simp [hname, htenant, haccept, hid, hempty]
  · rw [hvalues, hvalues', hlogin]
    by_cases hname : login = Name.accept
    · simp [hname]
    · have htenant : Name.tenantContext ≠ Name.accept := by decide
      have hnumber : Name.clientRequestId ≠ Name.accept := by decide
      simp [hname, htenant, hnumber]

/-- The log-in on the way of any call of a client is the one on the way of the client's own calls
with the same credentials and tenant, but for the value of its number. Only what it accepts differs,
just if the call goes through the network proxy and the client names a version, and the login header
does not replace it. -/
theorem ClientCall.renewal_agrees_iff {s : Settings} {k : ClientCall} {p : RequestPlan}
    {contents : Option Contents} {x y : AuthState} {e f : Exchange} (he : k.Renews s x e)
    (hf : (ClientCall.own p contents).Renews s y f) (hcredentials : x.credentials = y.credentials)
    (htenant : x.tenant = y.tenant) :
    e.request.AgreesExcept [Name.accept, Name.clientRequestId] f.request ∧
      (e.request.headers.getAll Name.clientRequestId = [] ↔
        f.request.headers.getAll Name.clientRequestId = []) ∧
      (e.request.headers.getAll Name.accept = f.request.headers.getAll Name.accept ↔
        (k.IsNetwork → s.version = none ∨
          ∃ c, x.credentials = some c ∧ checkName c.headerName = .ok Name.accept)) := by
  obtain ⟨c, hc, hsessions, id, now, later, hid, hrequest⟩ := he.login
  obtain ⟨d, hd, -, id', now', later', hid', hrequest'⟩ := hf.login
  obtain rfl : c = d := by
    rw [hc, hd] at hcredentials
    exact Option.some.inj hcredentials
  rw [htenant] at hrequest
  have hendpoint : (k.settings s).endpoint = s.endpoint := by cases k <;> rfl
  have hdefaults : (k.settings s).defaults = s.defaults := by cases k <;> rfl
  obtain ⟨hagrees, hnumber, haccept⟩ := Transaction.login_agreesExcept hsessions hendpoint hdefaults
    (hid.eq_empty_iff hid') hrequest hrequest'
  refine ⟨hagrees, hnumber, haccept.trans ?_⟩
  have hheader : (∃ d, x.credentials = some d ∧ checkName d.headerName = .ok Name.accept) ↔
      checkName c.headerName = .ok Name.accept := by
    simp [hc]
  rw [hheader]
  cases k with
  | network root method path contents =>
    change _ ∨ (NetworkProxy.settings s).versioned _ = _ ↔ (True → _)
    rw [NetworkProxy.versioned_settings_iff, or_comm, true_imp_iff]
  | _ => exact ⟨fun _ => False.elim, fun _ => .inr rfl⟩

/-- A client that names the version 36.0 finds its session expired, once by itself and once through
the network proxy. -/
theorem ClientCall.renewal_without_version : ∃ (s : Settings) (k : ClientCall) (p : RequestPlan)
    (x : AuthState) (e f : Exchange), k.IsNetwork ∧ k.Renews s x e ∧
      (ClientCall.own p none).Renews s x f ∧
      f.request.headers.getAll Name.accept = ["application/*+json;version=36.0"] ∧
      e.request.headers.getAll Name.accept = ["application/*+json"] ∧
      e.request.AgreesExcept [Name.accept, Name.clientRequestId] f.request ∧
      ¬ (s.version = none ∨
        ∃ c, x.credentials = some c ∧ checkName c.headerName = .ok Name.accept) := by
  let site : Url.Authority := ⟨[], none, "vcd".toList, none⟩
  let endpoint : Url := ⟨"https".toList, some site, .segments ["api".toList, []], none, none⟩
  let root : Url := ⟨"https".toList, some site, .segments ["network".toList, []], none, none⟩
  let s : Settings := { Settings.ofEndpoint endpoint with
    version := some ⟨⟨36, 0⟩, "36.0"⟩ }
  let x : AuthState := { AuthState.empty with
    credentials := some (.basic ⟨"alice", "org", "secret"⟩)
    token := some "expired"
    session := some ⟨endpoint, none, none, [(.network, root)]⟩ }
  let welcome : Reply := ⟨.ok, ⟨[(Name.legacyToken, "t")]⟩, "\x7b\x7d"⟩
  let w : World := ⟨x, none, fun _ => 0, 0, default,
    .scripted [.reply ⟨.unauthorized, .empty, ""⟩, .reply welcome]⟩
  let k : ClientCall := .network root .get "edges" none
  let own : ClientCall := .own (.make .get endpoint) none
  obtain ⟨e, he, hpost, haccept⟩ : ∃ e ∈ Program.exchanges (k.action s).run w,
      e.request.method ≠ k.method ∧
        e.request.headers.getAll Name.accept = ["application/*+json"] := by decide +kernel
  obtain ⟨f, hf, hpost', haccept'⟩ : ∃ f ∈ Program.exchanges (own.action s).run w,
      f.request.method ≠ own.method ∧
        f.request.headers.getAll Name.accept = ["application/*+json;version=36.0"] := by
    decide +kernel
  have hrenews : k.Renews s x e :=
    ClientCall.renews_of_mem (Action.runs_exchanges _ w) he hpost
  have hrenews' : own.Renews s x f :=
    ClientCall.renews_of_mem (Action.runs_exchanges _ w) hf hpost'
  obtain ⟨hagrees, -, hiff⟩ := ClientCall.renewal_agrees_iff hrenews hrenews' rfl rfl
  refine ⟨s, k, _, x, e, f, trivial, hrenews, hrenews', haccept', haccept, hagrees, fun hcases => ?_⟩
  have hsame := hiff.2 fun _ => hcases
  rw [haccept, haccept'] at hsame
  revert hsame
  decide

end CloudDirector
