import CloudDirector.Proofs.Client.Layers
import CloudDirector.Proofs.Credential.Coverage
import CloudDirector.Proofs.Text.Cutting

/-!
# Cookies of a session

What a login sets as cookies comes back with every request of its session: each known cookie with
the last value that was set for it, in the order of the known names, and nothing else.
-/
namespace CloudDirector
open Http Text

/-- The header value sets a cookie: its first part, up to a semicolon, is a name and a value around
the first equals sign, with white space that does not count. -/
def SetsCookie (header name value : String) : Prop :=
  ∃ before after attributes : List Char, header.toList = before ++ '=' :: (after ++ attributes) ∧
    '=' ∉ before ∧ ';' ∉ before ++ after ∧ (∀ c, attributes.head? = some c → c = ';') ∧
    name.toList = trimBlank before ∧ value.toList = trimBlank after

/-- The last of the header values that set a cookie sets it to `value`. -/
def LastSets (headers : List String) (name value : String) : Prop :=
  ∃ earlier header later, headers = earlier ++ header :: later ∧ SetsCookie header name value ∧
    ∀ other ∈ later, ∀ v, ¬ SetsCookie other name v

/-- The cookies of some names that header values set, in the order of the names. -/
inductive CookiesSet (headers : List String) : List String → List (String × String) → Prop
  | nil : CookiesSet headers [] []
  | sets {name value : String} {names : List String} {cookies : List (String × String)}
    (last : LastSets headers name value) (more : CookiesSet headers names cookies) :
    CookiesSet headers (name :: names) ((name, value) :: cookies)
  | leaves {name : String} {names : List String} {cookies : List (String × String)}
    (unset : ∀ header ∈ headers, ∀ value, ¬ SetsCookie header name value)
    (more : CookiesSet headers names cookies) : CookiesSet headers (name :: names) cookies

/-- A name and a value around the first equals sign. -/
def cookieOf (part : List Char) : Option (String × String) :=
  (cutFirst (· == '=') part).map fun (name, value) =>
    (String.ofList (trimBlank name), String.ofList (trimBlank value))

def cookiesOf (header : String) : List (String × String) :=
  (pieces (· == ';') header.toList).filterMap cookieOf

/-- A request has one header with the cookies, or none if there are no cookies. -/
def Http.Request.Carries (r : Request) (cookies : List (String × String)) : Prop :=
  (r.headers.getAll Name.cookie).map cookiesOf = if cookies = [] then [] else [cookies]

variable {header name value : String} {headers : List String}

theorem keptCookie_eq_some_iff : keptCookie header = some (name, value) ↔
    name ∈ AuthState.cookieNames ∧ SetsCookie header name value := by
  unfold keptCookie SetsCookie
  constructor
  · intro h
    obtain ⟨⟨before, after⟩, hcut, h⟩ := Option.bind_eq_some_iff.1 h
    obtain ⟨_, hname, h⟩ := Option.bind_eq_some_iff.1 h
    obtain ⟨rfl, rfl⟩ := Prod.mk.inj (Option.some.inj h)
    obtain ⟨c, hfirst, hc, hbefore⟩ := cutFirst_eq_some.1 hcut
    obtain rfl : c = '=' := by simpa using hc
    have hkept : ∀ c ∈ before ++ '=' :: after, c ≠ ';' := by
      intro c hc
      rw [← hfirst] at hc
      simpa using List.mem_takeWhile_imp hc
    refine ⟨List.contains_iff_mem.1 ((Option.guard_eq_some' _).1 hname), before, after,
      header.toList.dropWhile (· != ';'), ?_, fun h => by simpa using hbefore _ h, ?_, ?_,
      String.toList_ofList, String.toList_ofList⟩
    · rw [← List.cons_append, ← List.append_assoc, ← hfirst, List.takeWhile_append_dropWhile]
    · intro hmem
      refine hkept ';' ?_ rfl
      rcases List.mem_append.1 hmem with h | h
      · exact List.mem_append_left _ h
      · exact List.mem_append_right _ (List.mem_cons_of_mem _ h)
    · intro c hc
      have hstop := List.head?_dropWhile_not (· != ';') header.toList
      rw [hc] at hstop
      simpa using hstop
  · rintro ⟨hname, before, after, attributes, hheader, hequals, hsemicolon, hattributes, hn, hv⟩
    obtain rfl : name = String.ofList (trimBlank before) := String.toList_injective (by simp [hn])
    obtain rfl : value = String.ofList (trimBlank after) := String.toList_injective (by simp [hv])
    have hfirst : header.toList.takeWhile (· != ';') = before ++ '=' :: after := by
      have hkept : ∀ c ∈ before ++ '=' :: after, (c != ';') = true := by
        intro c hc
        rw [bne_iff_ne]
        rintro rfl
        simp_all
      have hstop : attributes.takeWhile (· != ';') = [] := by
        cases attributes with
        | nil => rfl
        | cons c rest => simp [hattributes c rfl]
      rw [hheader, ← List.cons_append, ← List.append_assoc, List.takeWhile_append_of_pos hkept,
        hstop, List.append_nil]
    have hcut : cutFirst (· == '=') (before ++ '=' :: after) = some (before, after) :=
      cutFirst_append_cons (beq_eq_false_of_notMem hequals) (by simp)
    simp [hfirst, hcut, hname, guard]

theorem lastSets_concat : LastSets (headers ++ [header]) name value ↔
    SetsCookie header name value ∨
      (∀ v, ¬ SetsCookie header name v) ∧ LastSets headers name value := by
  constructor
  · rintro ⟨earlier, found, later, hheaders, hsets, hlater⟩
    rcases List.eq_nil_or_concat later with rfl | ⟨later, last, rfl⟩
    · obtain ⟨-, hlast⟩ := List.append_inj' hheaders rfl
      cases hlast
      exact .inl hsets
    · rw [List.concat_eq_append, ← List.cons_append, ← List.append_assoc] at hheaders
      obtain ⟨rfl, hlast⟩ := List.append_inj' hheaders rfl
      cases hlast
      exact .inr ⟨hlater _ (by simp), earlier, found, later, rfl, hsets,
        fun other hother => hlater other (by simp [hother])⟩
  · rintro (hsets | ⟨hnone, earlier, found, later, rfl, hsets, hlater⟩)
    · exact ⟨headers, header, [], rfl, hsets, List.forall_mem_nil _⟩
    · refine ⟨earlier, found, later ++ [header], by simp, hsets, fun other hother => ?_⟩
      rcases List.mem_append.1 hother with hother | hother
      · exact hlater other hother
      · rw [List.mem_singleton.1 hother]
        exact hnone

theorem exists_lastSets (hmem : header ∈ headers) (h : SetsCookie header name value) :
    ∃ v, LastSets headers name v := by
  induction headers using List.reverseRecOn with
  | nil => cases hmem
  | append_singleton headers last ih =>
    simp only [lastSets_concat]
    by_cases hlast : ∃ v, SetsCookie last name v
    · obtain ⟨v, hv⟩ := hlast
      exact ⟨v, .inl hv⟩
    · rw [not_exists] at hlast
      rcases List.mem_append.1 hmem with hmem | hmem
      · obtain ⟨v, hv⟩ := ih hmem
        exact ⟨v, .inr ⟨hlast, hv⟩⟩
      · rw [List.mem_singleton.1 hmem] at h
        exact absurd h (hlast value)

/-- Of the values that set a known cookie the last one is kept. -/
theorem lookup_keptCookies (hname : name ∈ AuthState.cookieNames) :
    (Keyed.ofList (headers.filterMap keptCookie)).lookup name = some value ↔
      LastSets headers name value := by
  rw [Keyed.lookup_ofList, ← List.filterMap_reverse]
  induction headers using List.reverseRecOn with
  | nil => simp [LastSets]
  | append_singleton headers last ih =>
    have hsets (v : String) : SetsCookie last name v ↔ keptCookie last = some (name, v) := by
      rw [keptCookie_eq_some_iff, and_iff_right hname]
    rw [lastSets_concat, List.reverse_concat]
    simp only [hsets]
    cases hkept : keptCookie last with
    | none => simpa [List.filterMap_cons_none hkept] using ih
    | some cookie =>
      rw [List.filterMap_cons_some hkept, List.lookup_cons]
      by_cases hsame : name = cookie.1
      · obtain ⟨key, set⟩ := cookie
        obtain rfl : name = key := hsame
        simp
      · have hother (v : String) : some cookie ≠ some (name, v) := by
          rintro ⟨⟩
          exact hsame rfl
        have hbeq : (name == cookie.1) = false := by simpa using hsame
        simpa [hbeq, hother] using ih

theorem lookup_sessionCookies {h : Headers} (hname : name ∈ AuthState.cookieNames) :
    (sessionCookies h).lookup name = some value ↔
      LastSets ((h.getAll Name.setCookie).filter isVisible) name value := by
  have hvisible (values : List String) : values.filterMap visible? = values.filter isVisible := by
    induction values with
    | nil => rfl
    | cons v values ih =>
      by_cases hv : isVisible v = true <;> simp [visible?, hv, ih]
  rw [sessionCookies, hvisible, lookup_keptCookies hname]

theorem cookiesSet_sessionCookies (h : Headers) {names : List String}
    (hnames : ∀ name ∈ names, name ∈ AuthState.cookieNames) :
    CookiesSet ((h.getAll Name.setCookie).filter isVisible) names
      (names.filterMap fun name => ((sessionCookies h).lookup name).map (name, ·)) := by
  induction names with
  | nil => exact .nil
  | cons name names ih =>
    rw [List.forall_mem_cons] at hnames
    obtain ⟨hname, hnames⟩ := hnames
    cases hlookup : (sessionCookies h).lookup name with
    | none =>
      rw [List.filterMap_cons_none (by rw [hlookup]; rfl)]
      refine .leaves (fun header hheader value hsets => ?_) (ih hnames)
      obtain ⟨v, hv⟩ := exists_lastSets hheader hsets
      rw [(lookup_sessionCookies hname).2 hv] at hlookup
      cases hlookup
    | some value =>
      rw [List.filterMap_cons_some (by rw [hlookup]; rfl)]
      exact .sets ((lookup_sessionCookies hname).1 hlookup) (ih hnames)

/-- A cookie is read as it is written: no separator in it, and no white space around its parts. -/
structure IsPlainCookie (cookie : String × String) : Prop where
  name : ∀ c ∈ cookie.1.toList, c ≠ ';' ∧ c ≠ '='
  value : ';' ∉ cookie.2.toList
  trimmedName : trimBlank cookie.1.toList = cookie.1.toList
  trimmedValue : trimBlank cookie.2.toList = cookie.2.toList

theorem IsPlainCookie.read {gap : List Char} {cookie : String × String} (h : IsPlainCookie cookie)
    (hgap : ∀ c ∈ gap, c = ' ') :
    (∀ c ∈ gap ++ (cookie.1 ++ "=" ++ cookie.2).toList, (c == ';') = false) ∧
      cookieOf (gap ++ (cookie.1 ++ "=" ++ cookie.2).toList) = some cookie := by
  have htext : gap ++ (cookie.1 ++ "=" ++ cookie.2).toList =
      (gap ++ cookie.1.toList) ++ '=' :: cookie.2.toList := by simp
  have hcut : ∀ c ∈ gap ++ cookie.1.toList, (c == '=') = false := by
    intro c hc
    rcases List.mem_append.1 hc with hc | hc
    · simp [hgap c hc]
    · simp [(h.name c hc).2]
  have hname : trimBlank (gap ++ cookie.1.toList) = cookie.1.toList := by
    have hblank : ∀ c ∈ gap, isBlank c = true := by
      intro c hc
      rw [hgap c hc]
      rfl
    have htrim : trimBlank (gap ++ (cookie.1.toList ++ [])) = trimBlank cookie.1.toList :=
      trimBoth_append_of_forall hblank (List.forall_mem_nil _)
    rw [List.append_nil] at htrim
    exact htrim.trans h.trimmedName
  rw [htext]
  constructor
  · intro c hc
    rw [beq_eq_false_iff_ne]
    rintro rfl
    rw [List.mem_append, List.mem_append, List.mem_cons] at hc
    rcases hc with (hc | hc) | hc | hc
    · exact absurd (hgap _ hc) (by decide)
    · exact (h.name _ hc).1 rfl
    · exact absurd hc (by decide)
    · exact h.value hc
  · unfold cookieOf
    rw [cutFirst_append_cons hcut (by simp), Option.map_some]
    simp only [hname, h.trimmedValue, String.ofList_toList]

/-- Cookies are read back from the text in which they are joined, also behind spaces. -/
theorem cookiesOf_joined {gap : List Char} {cookies : List (String × String)}
    (hgap : ∀ c ∈ gap, c = ' ') (h : ∀ cookie ∈ cookies, IsPlainCookie cookie) :
    cookiesOf (String.ofList (gap ++
      (String.intercalate "; " (cookies.map fun c => c.1 ++ "=" ++ c.2)).toList)) = cookies := by
  unfold cookiesOf
  rw [String.toList_ofList]
  induction cookies generalizing gap with
  | nil =>
    have hnone {x : Char} (hx : ' ' ≠ x) : ∀ c ∈ gap, (c == x) = false := by
      intro c hc
      rw [hgap c hc]
      simpa using hx
    have hempty : (String.intercalate "; " []).toList = [] := rfl
    rw [List.map_nil, hempty, List.append_nil, pieces_of_forall (hnone (by decide))]
    simp [cookieOf, cutFirst_of_forall (hnone (x := '=') (by decide))]
  | cons cookie cookies ih =>
    rw [List.forall_mem_cons] at h
    obtain ⟨hchars, hcut⟩ := h.1.read hgap
    cases cookies with
    | nil =>
      rw [List.map_singleton, String.intercalate_singleton, pieces_of_forall hchars,
        List.filterMap_cons_some hcut]
      rfl
    | cons next cookies =>
      have hnext := @ih [' '] (by simp) h.2
      rw [List.map_cons] at hnext
      rw [List.map_cons, List.map_cons, String.intercalate_cons_cons]
      generalize String.intercalate "; " _ = text at hnext ⊢
      have htext : gap ++ (cookie.1 ++ "=" ++ cookie.2 ++ "; " ++ text).toList =
          (gap ++ (cookie.1 ++ "=" ++ cookie.2).toList) ++ ';' :: ([' '] ++ text.toList) := by simp
      rw [htext, pieces_append_cons (by simp), pieces_of_forall hchars, List.singleton_append,
        List.filterMap_cons_some hcut]
      exact congrArg (cookie :: ·) hnext

/-- What is kept of a reply is plain. -/
theorem isPlainCookie_of_sessionCookies {h : Headers} (hname : name ∈ AuthState.cookieNames)
    (hvalue : (sessionCookies h).lookup name = some value) : IsPlainCookie (name, value) := by
  obtain ⟨_, header, _, -, hsets, -⟩ := (lookup_sessionCookies hname).1 hvalue
  obtain ⟨before, after, attributes, -, -, hsemicolon, -, -, hv⟩ := hsets
  have hnames : ∀ name ∈ AuthState.cookieNames, (∀ c ∈ name.toList, c ≠ ';' ∧ c ≠ '=') ∧
      trimBlank name.toList = name.toList := by decide +kernel
  obtain ⟨hchars, htrimmed⟩ := hnames name hname
  refine ⟨hchars, fun hmem => ?_, htrimmed, ?_⟩
  · rw [hv] at hmem
    exact hsemicolon (List.mem_append_right _ ((trimBoth_sublist _ _).subset hmem))
  · rw [hv]
    exact trimBoth_trimBoth _ _

/-- The cookies of a state whose cookies came with a reply are those that the reply set last. -/
theorem AuthState.cookiesOf_cookieText {x : AuthState} {h : Headers}
    (hx : x.cookies = sessionCookies h) : ∃ cookies,
      CookiesSet ((h.getAll Name.setCookie).filter isVisible) cookieNames cookies ∧
        cookiesOf x.cookieText = cookies ∧ (x.cookieText = "" ↔ cookies = []) := by
  refine ⟨_, cookiesSet_sessionCookies h fun _ => id, ?_⟩
  let cookies := cookieNames.filterMap fun name => ((sessionCookies h).lookup name).map (name, ·)
  have htext : x.cookieText =
      String.intercalate "; " (cookies.map fun c => c.1 ++ "=" ++ c.2) := by
    unfold cookieText
    rw [hx, List.map_filterMap]
    simp [Option.map_map, Function.comp_def]
  have hplain : ∀ cookie ∈ cookies, IsPlainCookie cookie := by
    intro cookie hcookie
    obtain ⟨name, hname, hsome⟩ := List.mem_filterMap.1 hcookie
    obtain ⟨value, hvalue, rfl⟩ := Option.map_eq_some_iff.1 hsome
    exact isPlainCookie_of_sessionCookies hname hvalue
  have hread := cookiesOf_joined (List.forall_mem_nil _) hplain
  rw [List.nil_append, String.ofList_toList, ← htext] at hread
  refine ⟨hread, fun hempty => ?_, fun hnone => ?_⟩
  · rw [hempty] at hread
    exact hread.symm
  · rw [htext]
    change cookies = [] at hnone
    rw [hnone]
    rfl

theorem AuthState.cookies_of_stateOfLogin {s : Settings} {c : Credentials} {tenant : Option String}
    {reply : Reply} {x : AuthState} (h : stateOfLogin s c tenant reply = .ok x) :
    x.cookies = sessionCookies reply.headers := by
  unfold stateOfLogin at h
  cases htoken : filledHeader reply Name.legacyToken with
  | none => simp [htoken] at h
  | some token =>
    simp only [htoken] at h
    obtain ⟨session, -, h⟩ := Result.bind_eq_ok.1 h
    cases h
    rfl

theorem Http.Request.Carries.onWire {r wire : Request} {agent : String}
    {cookies : List (String × String)} (h : r.Carries cookies)
    (hwire : r.onWire? agent = some wire) : wire.Carries cookies := by
  obtain ⟨-, -, hheaders⟩ := Request.of_onWire hwire
  unfold Carries
  rw [hheaders _ (by decide) (fun hname => absurd hname (by decide))]
  exact h

/-- An attempt carries the cookies of its state, unless the client or the plan has some of its own. -/
theorem Attempt.carries {s : Settings} {a : Attempt} {id : String} {now : Time.Instant} {r : Request}
    {cookies : List (String × String)} (h : a.request s id now = .ok r)
    (hnone : a.state.sessionless? = none) (hread : cookiesOf a.state.cookieText = cookies)
    (hempty : a.state.cookieText = "" ↔ cookies = [])
    (hdefaults : s.defaults.getAll Name.cookie = [])
    (hplan : ∀ p, a.plan = some p → Name.cookie ∉ p.headers.fields.map Prod.fst) :
    r.Carries cookies := by
  have hvalues : a.state.values Name.cookie = [a.state.cookieText].filter (· ≠ "") := if_pos rfl
  unfold Request.Carries
  rw [Attempt.getAll_request h hnone (by decide) hplan, AuthState.valuesOver, hvalues, hdefaults]
  by_cases htext : a.state.cookieText = ""
  · simp [htext, hempty.1 htext]
  · simp [htext, hread, ← hempty]

theorem Http.Outcome.result_of_expect {expected : Status} {o : Outcome} {reply : Reply}
    (h : o.expect expected = .ok reply) : o.result = .ok reply := by
  unfold Outcome.expect at h
  cases ho : o.result with
  | error f => simp [ho] at h
  | ok answer =>
    simp only [ho, requireStatus] at h
    split at h
    · rw [Except.ok.inj h]
    · cases h

/-- Cookies survive the way from a log-in with credentials that make sessions to requests: what its
reply set last is what the next call carries and every other attempt in that state, as it is put
together and as a server sees it. What could be put together before, still can. -/
theorem login_cookies_carried {s : Settings} {c : Credentials} {st st' : AuthState}
    {history : List Exchange} (hc : c.isSessionless = false)
    (h : (login s c).Runs st history (.ok ()) st') :
    ∃ (e : Exchange) (reply : Reply) (cookies : List (String × String)),
      history = [e] ∧ e.outcome.result = .ok reply ∧
      CookiesSet ((reply.headers.getAll Name.setCookie).filter isVisible)
        ["vcloud_jwt", "vcloud_session_id", "vcloud-token"] cookies ∧
      ∀ client : Settings, client.defaults.getAll Name.cookie = [] →
        (∀ (p : RequestPlan) (body : Option String),
          Name.cookie ∉ p.headers.fields.map Prod.fst → ∀ later r last,
            (execute client p body).Runs st' later r last →
              (later = [] ∧ ¬ (p.attempt body st).IsFit client) ∨
                ∃ first rest, later = first :: rest ∧ first.request.Carries cookies) ∧
        ∀ a : Attempt, a.state = st' →
          (∀ p, a.plan = some p → Name.cookie ∉ p.headers.fields.map Prod.fst) →
            (∀ id now r, a.request client id now = .ok r → r.Carries cookies ∧
              ∀ agent wire, r.onWire? agent = some wire → wire.Carries cookies) ∧
            (Attempt.IsFit client { a with state := st } → a.IsFit client) := by
  obtain ⟨_, _, _, e, -, -, hhistory, hstate⟩ := (runs_login.1 h).of_ok
  obtain ⟨reply, hexpect, hlogin⟩ := Result.bind_eq_ok.1 hstate
  have hnone := AuthState.sessionless_of_stateOfLogin hc hlogin
  obtain ⟨cookies, hset, hread, hempty⟩ :=
    AuthState.cookiesOf_cookieText (AuthState.cookies_of_stateOfLogin hlogin)
  refine ⟨e, reply, cookies, hhistory, Outcome.result_of_expect hexpect, hset, ?_⟩
  intro client hdefaults
  have hcarries {a : Attempt} {id : String} {now : Time.Instant} {r : Request} (ha : a.state = st')
      (hplan : ∀ p, a.plan = some p → Name.cookie ∉ p.headers.fields.map Prod.fst)
      (hr : a.request client id now = .ok r) : r.Carries cookies := by
    subst ha
    exact Attempt.carries hr hnone hread hempty hdefaults hplan
  have hfit {a : Attempt} (ha : a.state = st')
      (hbefore : Attempt.IsFit client { a with state := st }) : a.IsFit client := by
    subst ha
    exact hbefore.after_login hc hlogin
  constructor
  · intro p body hplan later r last hrun
    obtain ⟨hnil, hunfit⟩ | ⟨first, rest, hlater, id, now, -, hr⟩ := execute_begins hrun
    · exact .inl ⟨hnil, fun hbefore => hunfit (hfit rfl hbefore)⟩
    · exact .inr ⟨first, rest, hlater, hcarries rfl (by rintro _ ⟨⟩; exact hplan) hr⟩
  · intro a ha hplan
    refine ⟨fun id now r hr => ?_, hfit ha⟩
    have h := hcarries ha hplan hr
    exact ⟨h, fun _ _ => h.onWire⟩

/-- A client that logs in and is answered with attributes, repeated, foreign and unreadable cookies
carries each known cookie once, as it was set last. -/
theorem cookies_carried_after_login : ∃ (s : Settings) (c : Credentials) (st' : AuthState)
    (e : Exchange) (r : Request), c.isSessionless = false ∧
      (login s c).Runs .empty [e] (.ok ()) st' ∧
      Attempt.request s ⟨st', .get, s.endpoint, none, none⟩ "" default = .ok r ∧
      r.Carries [("vcloud_jwt", "x=y"), ("vcloud-token", "b")] := by
  let endpoint : Url :=
    ⟨"https".toList, some ⟨[], none, "vcd".toList, none⟩, .segments ["api".toList, []], none, none⟩
  let s : Settings := { Settings.ofEndpoint endpoint with requestIds := .off }
  let c : Credentials := .basic ⟨"alice", "org", "secret"⟩
  let w : World := ⟨.empty, none, fun _ => 0, 0, default, .scripted [.reply ⟨.ok,
    ⟨[(Name.legacyToken, "t"), (Name.setCookie, "vcloud-token=a; Path=/"),
      (Name.setCookie, "vcloud_jwt=x=y; Secure"), (Name.setCookie, "other=1"),
      (Name.setCookie, " vcloud-token = b ; HttpOnly"), (Name.setCookie, "vcloud-token=\u00e9")]⟩,
    "\x7b\x7d"⟩]⟩
  let a : Attempt := ⟨((login s c).runIn w).2.auth, .get, endpoint, none, none⟩
  have hok : ((login s c).runIn w).1 = .ok () := by decide +kernel
  have hrun := Action.runs_exchanges (login s c) w
  rw [hok] at hrun
  obtain ⟨e, _, cookies, hhistory, -, -, hclient⟩ := login_cookies_carried rfl hrun
  obtain ⟨-, hattempts⟩ := hclient s rfl
  obtain ⟨r, hr⟩ : ∃ r, a.request s "" default = .ok r :=
    Result.exists_of_isOk (by decide +kernel)
  have hvalues : r.headers.getAll Name.cookie = ["vcloud_jwt=x=y; vcloud-token=b"] := by
    have hmap : (a.request s "" default).map (·.headers.getAll Name.cookie) =
        .ok ["vcloud_jwt=x=y; vcloud-token=b"] := by
      decide +kernel
    rw [hr] at hmap
    exact Except.ok.inj hmap
  obtain ⟨hcarries, -⟩ := (hattempts a rfl nofun).1 _ _ r hr
  have hread : cookiesOf "vcloud_jwt=x=y; vcloud-token=b" =
      [("vcloud_jwt", "x=y"), ("vcloud-token", "b")] := by
    decide +kernel
  have hcookies : cookies = [("vcloud_jwt", "x=y"), ("vcloud-token", "b")] := by
    unfold Request.Carries at hcarries
    rw [hvalues, List.map_singleton, hread] at hcarries
    split at hcarries
    · cases hcarries
    · exact (List.singleton_inj.1 hcarries).symm
  rw [hhistory] at hrun
  exact ⟨s, c, _, e, r, rfl, hrun, hr, hcookies ▸ hcarries⟩

end CloudDirector
