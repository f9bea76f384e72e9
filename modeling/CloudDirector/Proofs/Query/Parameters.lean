import CloudDirector.Proofs.Keyed
import CloudDirector.Proofs.Query.Fetching
import CloudDirector.Proofs.Url.Rereading
import CloudDirector.Query.Pages

/-!
# Parameters on their way

The parameters of a request are read back from its address as they were, behind those that the
address had. A query has the parameters that were set last, and asks at an address that is read
again from its text, which changes none of them.
-/
namespace CloudDirector
open Http Json

variable {α : Type} {s : Settings} {q : Query} {st st' : AuthState} {history : List Exchange}
  {kept : Option QueryList}

namespace Query

/-- A setting of a query. -/
inductive Setting where
  | page (number : Nat)
  | pageSize (size : Nat)
  | fields (names : List String)
  | filter (text : String)
  | equalities (terms : List (String × String))
  | sortAsc (field : String)
  | sortDesc (field : String)
  | links (shown : Bool)
  deriving DecidableEq, Repr

namespace Setting

/-- The query with a setting, which replaces the one before it. -/
def apply (q : Query) : Setting → Query
  | .page number => { q with page := number }
  | .pageSize size => { q with pageSize := some size }
  | .fields names => { q with fields := names }
  | .filter text => { q with filter := some text }
  | .equalities terms => q.withEqualities terms
  | .sortAsc field => { q with sortAsc := some field }
  | .sortDesc field => { q with sortDesc := some field }
  | .links shown => { q with links := shown }

-- What a setting names, if it is of one kind or another.

def page? : Setting → Option Nat
  | .page number => some number
  | _ => none

def pageSize? : Setting → Option Nat
  | .pageSize size => some size
  | _ => none

def fields? : Setting → Option (List String)
  | .fields names => some names
  | _ => none

-- A filter is named by its text or by its terms.
def filter? : Setting → Option String
  | .filter text => some text
  | .equalities terms => some (equalityFilter terms)
  | _ => none

def sortAsc? : Setting → Option String
  | .sortAsc field => some field
  | _ => none

def sortDesc? : Setting → Option String
  | .sortDesc field => some field
  | _ => none

def links? : Setting → Option Bool
  | .links shown => some shown
  | _ => none

end Setting

variable {β : Type}

def lastOf (kind : Setting → Option β) (settings : List Setting) : Option β :=
  (settings.filterMap kind).getLast?

def built (target : QueryTarget) (format : QueryFormat) (settings : List Setting) : Query :=
  settings.foldl Setting.apply (make target format)

/-- The parameters that settings stand for. The first page is asked for, and links, unless something
else is said; all other parameters are those that are set. -/
def parametersOf (settings : List Setting) : List (String × String) :=
  [("page", toString ((lastOf Setting.page? settings).getD 1))] ++
  ((lastOf Setting.pageSize? settings).map fun n => ("pageSize", toString n)).toList ++
  (match lastOf Setting.fields? settings with
    | some (name :: names) => [("fields", String.intercalate "," (name :: names))]
    | _ => []) ++
  ((lastOf Setting.filter? settings).map fun f => ("filter", f)).toList ++
  ((lastOf Setting.sortAsc? settings).map fun f => ("sortAsc", f)).toList ++
  (if (lastOf Setting.links? settings).getD true then [("links", "true")] else []) ++
  ((lastOf Setting.sortDesc? settings).map fun f => ("sortDesc", f)).toList

theorem lastOf_cons (kind : Setting → Option β) (x : Setting) (settings : List Setting) :
    lastOf kind (x :: settings) = (lastOf kind settings).or (kind x) := by
  unfold lastOf
  cases hx : kind x with
  | none => rw [List.filterMap_cons_none hx, Option.or_none]
  | some b =>
    rw [List.filterMap_cons_some hx, List.getLast?_cons]
    cases (settings.filterMap kind).getLast? <;> rfl

/-- Each part of a query is what was set last, or what it was before. -/
theorem foldl_apply (settings : List Setting) (q : Query) : settings.foldl Setting.apply q =
    { q with
      page := (lastOf Setting.page? settings).getD q.page
      pageSize := (lastOf Setting.pageSize? settings).or q.pageSize
      fields := (lastOf Setting.fields? settings).getD q.fields
      filter := (lastOf Setting.filter? settings).or q.filter
      sortAsc := (lastOf Setting.sortAsc? settings).or q.sortAsc
      sortDesc := (lastOf Setting.sortDesc? settings).or q.sortDesc
      links := (lastOf Setting.links? settings).getD q.links } := by
  induction settings generalizing q with
  | nil => rfl
  | cons x settings ih =>
    rw [List.foldl_cons, ih]
    simp only [lastOf_cons]
    cases x <;> simp [Setting.apply, Setting.page?, Setting.pageSize?, Setting.fields?,
      Setting.filter?, Setting.sortAsc?, Setting.sortDesc?, Setting.links?, withEqualities]

theorem parameters_built (target : QueryTarget) (format : QueryFormat) (settings : List Setting) :
    (built target format settings).parameters = parametersOf settings := by
  unfold built parametersOf
  rw [foldl_apply]
  simp only [parameters, make, Option.or_none]
  cases lastOf Setting.fields? settings with
  | none => rfl
  | some names => cases names <;> rfl

theorem format_built (target : QueryTarget) (format : QueryFormat) (settings : List Setting) :
    (built target format settings).format = format := by
  unfold built
  rw [foldl_apply]
  rfl

/-- The address has the format of a packaged query; that of a type has it from the query list. -/
def formatPairs (q : Query) : List (String × String) :=
  match q.target with
  | .packaged _ => [("format", q.format.name)]
  | .typed _ => []

/-- Where a query is without its parameters, and what is exchanged to find it. A packaged query is
at its path under the endpoint. A type is where the query list has it, which is read unless it is
kept. -/
inductive Finds (s : Settings) (q : Query) (st : AuthState) :
    (kept : Option QueryList) → List Exchange → Url → AuthState → Prop
  | packaged {kept : Option QueryList} {path : String} {root : Url}
    (target : q.target = .packaged path) (joined : s.apiUrl path = .ok root) :
    Finds s q st kept [] root st
  | kept {name : String} {list : QueryList} {root : Url} (target : q.target = .typed name)
    (listed : list.lookup (queryKey q.format.mediaType name) = some root) :
    Finds s q st (some list) [] root st
  | loaded {name : String} {response : Response Entity} {addresses : QueryList} {root : Url}
    {history : List Exchange} {st' : AuthState} (target : q.target = .typed name)
    (loads : (readEntity s .queryList).Runs st history (.ok response) st')
    (read : queryAddresses response.data.link = .ok addresses)
    (listed : (Keyed.ofList addresses).lookup (queryKey q.format.mediaType name) = some root) :
    Finds s q st none history root st'

end Query

def QueryList.IsRead (list : QueryList) : Prop := ∀ entry ∈ list, entry.2.IsRead

theorem ofText_of_parseUrl {text : String} {u : Url} (h : parseUrl text = .ok u) :
    Url.ofText text = .ok u := by
  unfold parseUrl at h
  cases hread : Url.ofText text with
  | error fault =>
    rw [hread] at h
    cases h
  | ok v =>
    rw [hread] at h
    cases h
    rfl

theorem isRead_of_parseUrl {text : String} {u : Url} (h : parseUrl text = .ok u) : u.IsRead :=
  .text (ofText_of_parseUrl h)

theorem isRead_of_queryAddresses {links : List Link} {list : QueryList}
    (h : queryAddresses links = .ok list) : QueryList.IsRead list := by
  induction links generalizing list with
  | nil =>
    cases h
    exact List.forall_mem_nil _
  | cons link links ih =>
    unfold queryAddresses at h
    split at h
    · obtain ⟨url, hurl, h⟩ := Result.bind_eq_ok.1 h
      obtain ⟨rest, hrest, h⟩ := Result.bind_eq_ok.1 h
      cases h
      exact List.forall_mem_cons.2 ⟨isRead_of_parseUrl hurl, ih hrest⟩
    · exact ih h

/-- The endpoint of a draft is read from a text, and it is that of the finished settings. -/
theorem Draft.isRead_withEndpoint {d d' : Draft} {text : String}
    (h : d.withEndpoint text = .ok d') : ∀ endpoint, d'.endpoint = some endpoint → endpoint.IsRead := by
  obtain ⟨url, hurl, hd⟩ := Result.bind_eq_ok.1 h
  cases hd
  rintro _ ⟨⟩
  exact .slash (isRead_of_parseUrl hurl)

theorem Draft.isRead_finish {d : Draft}
    (hread : ∀ endpoint, d.endpoint = some endpoint → endpoint.IsRead) (h : d.finish = .ok s) :
    s.endpoint.IsRead := by
  unfold finish at h
  split at h
  · cases h
  · next endpoint hendpoint =>
    obtain ⟨-, -, hs⟩ := Result.bind_eq_ok.1 h
    cases hs
    exact hread endpoint hendpoint

theorem Settings.isRead_apiUrl {path : String} {root : Url} (hendpoint : s.endpoint.IsRead)
    (h : s.apiUrl path = .ok root) : root.IsRead := by
  unfold Settings.apiUrl joinUrl at h
  cases hread : s.endpoint.join path with
  | error fault =>
    rw [hread] at h
    cases h
  | ok v =>
    rw [hread] at h
    cases h
    exact .joined hendpoint hread

theorem Query.Finds.isRead {root : Url} (hendpoint : s.endpoint.IsRead)
    (hkept : ∀ list, kept = some list → QueryList.IsRead list)
    (h : q.Finds s st kept history root st') : root.IsRead := by
  cases h with
  | packaged target joined => exact Settings.isRead_apiUrl hendpoint joined
  | kept target listed => exact hkept _ rfl _ (Keyed.mem_of_lookup listed)
  | loaded target loads read listed =>
    exact isRead_of_queryAddresses read _ (Keyed.mem_of_lookup_ofList listed)

/-- The query list, given the one that is kept. -/
def knownList (s : Settings) (kept : Option QueryList) : Action QueryList :=
  match kept with
  | some list => return list
  | none => do
    let response ← readEntity s .queryList
    let list := Keyed.ofList (← queryAddresses response.data.link)
    Program.keepQueries list
    return list

theorem queryList_eq : queryList s = liftM Program.queries? >>= knownList s := rfl

namespace Query

def listed (q : Query) (name : String) (list : QueryList) : Action Url := do
  match list.lookup (queryKey q.format.mediaType name) with
  | some url => return url
  | none => throw (.missingLink
      ⟨(← endpointUrl .queryList).text, "down", some q.format.mediaType⟩)

theorem baseUrl_packaged {path : String} (h : q.target = .packaged path) :
    q.baseUrl s = liftM (s.apiUrl path) >>= fun root =>
      pure (root.appendPair ("format", q.format.name)) := by
  unfold baseUrl
  rw [h]

theorem baseUrl_typed {name : String} (h : q.target = .typed name) :
    q.baseUrl s = queryList s >>= q.listed name := by
  unfold baseUrl
  rw [h]
  rfl

/-- The address of a query without its parameters, given the query list that is kept. -/
def knownBase (s : Settings) (q : Query) (kept : Option QueryList) : Action Url :=
  match q.target with
  | .packaged _ => q.baseUrl s
  | .typed name => knownList s kept >>= q.listed name

theorem runsKeeping_baseUrl {r : Result Url} :
    (q.baseUrl s).RunsKeeping kept st history r st' ↔
      (q.knownBase s kept).RunsKeeping kept st history r st' := by
  unfold knownBase
  cases htarget : q.target with
  | packaged path => exact Iff.rfl
  | typed name =>
    rw [baseUrl_typed htarget, queryList_eq, bind_assoc]
    exact Action.runsKeeping_queries_bind

/-- A list that is known is kept, or it was read. -/
theorem knownList_cases {list : QueryList}
    (h : (knownList s kept).Runs st history (.ok list) st') :
    (kept = some list ∧ history = [] ∧ st' = st) ∨ ∃ response addresses, kept = none ∧
      (readEntity s .queryList).Runs st history (.ok response) st' ∧
      queryAddresses response.data.link = .ok addresses ∧ list = Keyed.ofList addresses := by
  cases kept with
  | some old =>
    obtain ⟨rfl, hr, rfl⟩ := Action.runs_pure.1 h
    cases hr
    exact .inl ⟨rfl, rfl, rfl⟩
  | none =>
    obtain ⟨_, _, hr⟩ | ⟨before, response, t, after, hread, hkeep, rfl⟩ := Action.runs_bind.1 h
    · cases hr
    · cases haddresses : queryAddresses response.data.link with
      | error e =>
        rw [haddresses] at hkeep
        obtain ⟨-, hr, -⟩ := Action.runs_error_bind.1 hkeep
        cases hr
      | ok addresses =>
        rw [haddresses] at hkeep
        obtain ⟨_, _, u, _, ⟨rfl, -, rfl⟩, hend, rfl⟩ :=
          Action.runs_program_bind.1 (Action.runs_ok_bind.1 hkeep)
        obtain ⟨rfl, hr, rfl⟩ := Action.runs_pure.1 hend
        cases hr
        rw [List.append_nil]
        exact .inr ⟨response, addresses, rfl, hread, haddresses, rfl⟩

theorem listed_ok {name : String} {list : QueryList} {root : Url}
    (h : (q.listed name list).Runs st history (.ok root) st') :
    list.lookup (queryKey q.format.mediaType name) = some root ∧ history = [] ∧ st' = st := by
  unfold listed at h
  split at h
  · next url hurl =>
    obtain ⟨rfl, hr, rfl⟩ := Action.runs_pure.1 h
    cases hr
    exact ⟨hurl, rfl, rfl⟩
  · obtain ⟨_, _, hr⟩ | ⟨_, _, _, _, -, hend, -⟩ := Action.runs_bind.1 h
    · cases hr
    · obtain ⟨-, hr, -⟩ := Action.runs_throw.1 hend
      cases hr

/-- An address that was found is where the query is, with its format if it is packaged. -/
theorem finds_of_baseUrl {base : Url}
    (hbase : (q.baseUrl s).RunsKeeping kept st history (.ok base) st') :
    ∃ root, q.Finds s st kept history root st' ∧ base = root.appendPairs q.formatPairs := by
  have h := (runsKeeping_baseUrl.1 hbase).runs
  unfold knownBase at h
  unfold formatPairs
  cases htarget : q.target with
  | packaged path =>
    rw [htarget] at h
    dsimp only at h
    rw [baseUrl_packaged htarget] at h
    cases hroot : s.apiUrl path with
    | error e =>
      rw [hroot] at h
      obtain ⟨-, hr, -⟩ := Action.runs_error_bind.1 h
      cases hr
    | ok root =>
      rw [hroot] at h
      obtain ⟨rfl, hr, rfl⟩ := Action.runs_pure.1 (Action.runs_ok_bind.1 h)
      cases hr
      exact ⟨root, .packaged htarget hroot, rfl⟩
  | typed name =>
    rw [htarget] at h
    obtain ⟨_, _, hr⟩ | ⟨before, list, t, after, hlist, hlisted, rfl⟩ := Action.runs_bind.1 h
    · cases hr
    · obtain ⟨hlookup, rfl, rfl⟩ := listed_ok hlisted
      rw [List.append_nil]
      refine ⟨base, ?_, rfl⟩
      obtain ⟨rfl, rfl, rfl⟩ | ⟨response, addresses, rfl, hread, haddresses, rfl⟩ :=
        knownList_cases hlist
      · exact .kept htarget hlookup
      · exact .loaded htarget hread haddresses hlookup

/-- A query that is asked of a client that keeps `kept` fails to find its address, or it finds it and
reads its first page there. -/
theorem runsKeeping_execute {item : Decoder α} {r : Result (PageIterator α)}
    (h : (q.execute s item).RunsKeeping kept st history r st') :
    (∃ fault, (q.baseUrl s).RunsKeeping kept st history (.error fault) st' ∧ r = .error fault) ∨
      ∃ found root t fetched x, history = found ++ fetched ∧ q.Finds s st kept found root t ∧
        CallsOnce s (Page.ofDocument item) (root.appendPairs (q.formatPairs ++ q.parameters)).text
          (some q.format.mediaType) t fetched x st' ∧
        r = x.map fun first => .before q.format first.data := by
  have hexecute : q.execute s item = q.baseUrl s >>= fun base =>
      getTyped s (Page.ofDocument item) (base.appendPairs q.parameters).text q.format.mediaType >>=
        fun first => pure (.before q.format first.data) := by
    unfold execute address
    simp only [bind_assoc, pure_bind]
  rw [hexecute] at h
  obtain hfailed | ⟨found, base, t, fetched, hbase, hread, rfl⟩ := h.of_bind
  · exact .inl hfailed
  · obtain ⟨root, hfinds, rfl⟩ := finds_of_baseUrl hbase
    have hpairs : (root.appendPairs q.formatPairs).appendPairs q.parameters =
        root.appendPairs (q.formatPairs ++ q.parameters) := List.foldl_append.symm
    rw [hpairs] at hread
    obtain ⟨x, hcall, rfl⟩ := Action.runs_bind_pure.1 hread
    exact .inr ⟨found, root, t, fetched, x, rfl, hfinds, runs_getTyped.1 hcall, rfl⟩

end Query

/-- A query is asked where it was found, by one call: the address is read again from its text, and
what is asked for there has the pairs of that address and then `given`. -/
inductive AsksAt (s : Settings) (item : Decoder α) (format : QueryFormat) (root : Url)
    (given : List (String × String)) (st : AuthState) :
    List Exchange → Result (PageIterator α) → AuthState → Prop
  | unreadable {fault : Error} (read : parseUrl root.text = .error fault) :
    AsksAt s item format root given st [] (.error fault) st
  | failed {home : Url} {fault : Error} {fetched : List Exchange} {st' : AuthState}
    (read : parseUrl root.text = .ok home)
    (pairs : (home.appendPairs given).queryPairs = root.queryPairs ++ given)
    (asks : ReadsAt s (Page.ofDocument item) (some format.mediaType) (home.appendPairs given) st
      fetched (.error fault) st') : AsksAt s item format root given st fetched (.error fault) st'
  | answered {home : Url} {response : Response (Page α)} {fetched : List Exchange}
    {st' : AuthState} (read : parseUrl root.text = .ok home)
    (pairs : (home.appendPairs given).queryPairs = root.queryPairs ++ given)
    (asks : ReadsAt s (Page.ofDocument item) (some format.mediaType) (home.appendPairs given) st
      fetched (.ok response) st')
    (reads : ∃ e ∈ fetched, e.Reads item (home.appendPairs given) response.data) :
    AsksAt s item format root given st fetched (.ok (.before format response.data)) st'

theorem parseUrl_appendPairs {root : Url} (h : root.IsShown) (given : List (String × String)) :
    parseUrl (root.appendPairs given).text =
      (parseUrl root.text).map fun home => home.appendPairs given := by
  unfold parseUrl
  rw [h.ofText_appendPairs]
  cases Url.ofText root.text <;> rfl

theorem CallsOnce.asksAt {item : Decoder α} {format : QueryFormat} {root : Url}
    {given : List (String × String)} {x : Result (Response (Page α))} (hshown : root.IsShown)
    (h : CallsOnce s (Page.ofDocument item) (root.appendPairs given).text (some format.mediaType)
      st history x st') :
    AsksAt s item format root given st history
      (x.map fun first => .before format first.data) st' := by
  have hagain := parseUrl_appendPairs hshown given
  cases hroot : parseUrl root.text with
  | error fault =>
    rw [hroot] at hagain
    cases h with
    | unaddressed address =>
      cases address.symm.trans hagain
      exact .unreadable hroot
    | called address => cases address.symm.trans hagain
  | ok home =>
    rw [hroot] at hagain
    have hpairs : (home.appendPairs given).queryPairs = root.queryPairs ++ given := by
      rw [Url.queryPairs_appendPairs, hshown.queryPairs_of_ofText_text (ofText_of_parseUrl hroot)]
    have hreads := h.readsAt hagain
    cases x with
    | error fault => exact .failed hroot hpairs hreads
    | ok response => exact .answered hroot hpairs hreads hreads.fetches.exists_last

/-- Every exchange of a call is an attempt at its plan, or one of a log-in between two attempts. -/
theorem CallSteps.attempts_or_login {p : RequestPlan} {body : Option String} {n : Nat}
    {r : Result (Reply × Nat)} (h : CallSteps s p body n st history r st') :
    ∀ e ∈ history, (∃ t, e.Attempts s p body t) ∨
      ∃ t login x t', (relogin s).Runs t login x t' ∧ e ∈ login := by
  induction h with
  | unfit fault => exact List.forall_mem_nil _
  | answered sent outcome => exact List.forall_mem_singleton.2 (.inl ⟨_, sent⟩)
  | failed sent outcome => exact List.forall_mem_singleton.2 (.inl ⟨_, sent⟩)
  | again sent outcome retries more ih => exact List.forall_mem_cons.2 ⟨.inl ⟨_, sent⟩, ih⟩
  | renewed sent outcome retries renewal more ih =>
    exact List.forall_mem_cons.2 ⟨.inl ⟨_, sent⟩, List.forall_mem_append.2
      ⟨fun e he => .inr ⟨_, _, _, _, renewal, he⟩, ih⟩⟩
  | renewalFailed sent outcome retries renewal =>
    exact List.forall_mem_cons.2 ⟨.inl ⟨_, sent⟩, fun e he => .inr ⟨_, _, _, _, renewal, he⟩⟩

/-- The query of an address is on the wire as it is. -/
theorem Http.Request.query_onWire {r wire : Request} {agent : String}
    (h : r.onWire? agent = some wire) : wire.url.query = r.url.query := by
  unfold Request.onWire? at h
  split at h
  · cases h
    rfl
  · cases h

theorem RequestPlan.queryPairs_fullUrl (p : RequestPlan) :
    p.fullUrl.queryPairs = p.url.queryPairs ++ p.parameters :=
  Url.queryPairs_appendPairs p.url p.parameters

theorem Exchange.Attempts.queryPairs_onWire {e : Exchange} {p : RequestPlan}
    {body : Option String} {agent : String} {wire : Request} (sent : e.Attempts s p body st)
    (hwire : e.request.onWire? agent = some wire) :
    wire.url.queryPairs = p.url.queryPairs ++ p.parameters := by
  rw [← p.queryPairs_fullUrl, ← sent.target.2]
  unfold Url.queryPairs
  rw [Http.Request.query_onWire hwire]

/-- Parameters reach the server as they are. A request has the pairs of its address and then its
parameters, whatever characters they have, and nothing else of the address changes. A query, with
settings made in any order, is asked where it was found, with the format of a packaged query and
then what was set last of each kind. -/
theorem parameters_reach_server :
    (∀ p : RequestPlan,
      p.fullUrl.queryPairs = p.url.queryPairs ++ p.parameters ∧
      { p.fullUrl with query := p.url.query } = p.url ∧
      (p.parameters = [] → p.fullUrl = p.url) ∧
      ∀ s body st history r st', (execute s p body).Runs st history r st' →
        (history = [] → ¬ (p.attempt body st).IsFit s) ∧
        ∀ e ∈ history,
          (e.request.url = p.fullUrl ∧ ∀ agent wire, e.request.onWire? agent = some wire →
            wire.url.queryPairs = p.url.queryPairs ++ p.parameters) ∨
          ∃ t login x t', (relogin s).Runs t login x t' ∧ e ∈ login) ∧
    ∀ (s : Settings) (kept : Option QueryList), s.endpoint.IsRead →
      (∀ list, kept = some list → QueryList.IsRead list) →
      ∀ (target : QueryTarget) (format : QueryFormat) (settings : List Query.Setting),
        let q := Query.built target format settings
        ∀ (item : Decoder α) st history r st',
          (q.execute s item).RunsKeeping kept st history r st' →
          (∃ fault, (q.baseUrl s).RunsKeeping kept st history (.error fault) st' ∧
            r = .error fault) ∨
            ∃ found root t fetched, history = found ++ fetched ∧
              q.Finds s st kept found root t ∧
              AsksAt s item format root (q.formatPairs ++ Query.parametersOf settings) t fetched
                r st' := by
  constructor
  · intro p
    refine ⟨p.queryPairs_fullUrl, ?_, ?_, ?_⟩
    · unfold RequestPlan.fullUrl
      rw [Url.appendPairs_eq]
    · intro hnone
      unfold RequestPlan.fullUrl
      rw [hnone, Url.appendPairs_nil]
    · intro s body st history r st' hrun
      refine ⟨not_isFit_of_execute hrun, fun e he => ?_⟩
      obtain ⟨t, sent⟩ | hlogin := (steps_of_attempts hrun).attempts_or_login e he
      · exact .inl ⟨sent.target.2, fun _ _ => sent.queryPairs_onWire⟩
      · exact .inr hlogin
  · intro s kept hendpoint hkept target format settings q item st history r st' hrun
    have hparameters : q.parameters = Query.parametersOf settings :=
      Query.parameters_built target format settings
    have hformat : q.format = format := Query.format_built target format settings
    obtain hfailed | ⟨found, root, t, fetched, x, rfl, hfinds, hcall, rfl⟩ :=
      Query.runsKeeping_execute hrun
    · exact .inl hfailed
    · rw [hparameters, hformat] at hcall
      rw [hformat]
      exact .inr ⟨found, root, t, fetched, rfl, hfinds,
        hcall.asksAt (hfinds.isRead hendpoint hkept).isShown⟩

/-- A packaged query with a parameter of its own, and a filter that holds all that separates
parameters, is asked for with both as they are. -/
theorem separators_reach_server : ∃ (s : Settings) (settings : List Query.Setting)
    (item : Decoder String) (history : List Exchange) (r : Result (PageIterator String))
    (st' : AuthState) (e : Exchange), s.endpoint.IsRead ∧
      ((Query.built (.packaged "vms?x=1") .records settings).execute s item).RunsKeeping none .empty
        history r st' ∧
      e ∈ history ∧ e.request.method = .get ∧ e.request.url.queryPairs =
        [("x", "1"), ("format", "records"), ("page", "2"),
          ("filter", "name==a&b=c+d%20;#\u00e9\u2026"), ("links", "true"), ("sortDesc", "")] := by
  let endpoint : Url :=
    ⟨"https".toList, some ⟨[], none, "vcd".toList, none⟩, .segments ["api".toList, []], none, none⟩
  let s : Settings := { Settings.ofEndpoint endpoint with requestIds := .off }
  let settings : List Query.Setting := [.filter "", .page 7, .sortDesc "", .fields [],
    .filter "name==a&b=c+d%20;#\u00e9\u2026", .page 2]
  let item : Decoder String := .text
  let q := Query.built (.packaged "vms?x=1") .records settings
  let page : Page String := ⟨none, none, none, 0, 0, 0, [], ["vm"]⟩
  let w : World := ⟨.empty, none, fun _ => 0, 0, default,
    .scripted [.reply ⟨.ok, .empty, (page.toJson .string).text⟩]⟩
  have hendpoint : s.endpoint.IsRead :=
    .text (show Url.ofText "https://vcd/api/" = .ok endpoint by decide +kernel)
  have hread : ((q.execute s item).runIn w).1.map PageIterator.unread = .ok (some page) := by
    decide +kernel
  have hroot : (s.apiUrl "vms?x=1").map Url.queryPairs = .ok [("x", "1")] := by decide +kernel
  have hgiven : q.formatPairs ++ Query.parametersOf settings =
      [("format", "records"), ("page", "2"), ("filter", "name==a&b=c+d%20;#\u00e9\u2026"),
        ("links", "true"), ("sortDesc", "")] := by
    decide +kernel
  have hrun := Action.runsKeeping_exchanges (q.execute s item) w
  generalize ((q.execute s item).runIn w).1 = r at hread hrun
  generalize ((q.execute s item).runIn w).2.auth = left at hrun
  obtain ⟨fault, -, rfl⟩ | ⟨found, root, t, fetched, hhistory, hfinds, hasks⟩ :=
    parameters_reach_server.2 s none hendpoint nofun _ _ settings item _ _ _ _ hrun
  · cases hread
  · cases hfinds with
    | packaged target joined =>
      cases target
      rw [joined] at hroot
      cases hasks with
      | unreadable read => cases hread
      | failed read pairs asks => cases hread
      | answered read pairs asks reads =>
        obtain ⟨e, he, hreads⟩ := reads
        refine ⟨s, settings, item, _, _, _, e, hendpoint, hrun, ?_, hreads.gets.1, ?_⟩
        · rw [hhistory]
          exact List.mem_append_right _ he
        · rw [hreads.gets.2, pairs, Except.ok.inj hroot, hgiven]
          rfl
    | loaded target => cases target

end CloudDirector
