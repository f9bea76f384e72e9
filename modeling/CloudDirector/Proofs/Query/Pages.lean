import CloudDirector.Proofs.Query.Fetching
import CloudDirector.Query.Pages

/-!
# A cursor on a chain of pages

The pages of a query hang together by links, and an iterator knows only the page on which it stands.
Against a server that answers for each address with the page that is there, the iterator is a number
in the list of pages, with a mark as long as the first page is unread: every call answers what the
number says, fetches at most the neighbouring page, and leaves everything as it was if it fails.
-/
namespace CloudDirector
open Http Json

variable {α : Type} {s : Settings} {item : Decoder α} {site : Url → Option (Page α)}
  {pages : List (Page α)} {format : QueryFormat}

/-- The two ways along the pages. -/
inductive PageDirection where
  | next
  | previous
  deriving DecidableEq, Repr

def PageDirection.rel : PageDirection → String
  | .next => "nextPage"
  | .previous => "previousPage"

/-- The calls on an iterator: whether there is a page in a direction, and that page. -/
inductive PageCall where
  | asks (d : PageDirection)
  | goes (d : PageDirection)
  deriving DecidableEq, Repr

inductive PageAnswer (α : Type) where
  | flag (b : Bool)
  | page (p : Option (Page α))

/-- A call that was made: the context in which it was made, what it exchanged, how it ended, and
the context that it left. -/
structure Visit (α : Type) where
  call : PageCall
  state : AuthState
  history : List Exchange
  answer : Result (PageAnswer α)
  left : AuthState

/-- A call that is to be made in a context and against a server. -/
structure PageTurn where
  call : PageCall
  state : AuthState
  server : List Exchange → Request → Outcome

structure Visit.Makes (v : Visit α) (turn : PageTurn) : Prop where
  call : v.call = turn.call
  state : v.state = turn.state
  answered : AnsweredBy turn.server v.history

namespace PageIterator

def step (p : PageIterator α) : PageDirection → Result (PageStep α)
  | .next => p.forward
  | .previous => p.backward

/-- What a call does: its answer, and the iterator after it. -/
def perform (s : Settings) (item : Decoder α) (p : PageIterator α) :
    PageCall → Action (PageAnswer α × PageIterator α)
  | .asks .next => do return (.flag (← p.hasNext), p)
  | .asks .previous => do return (.flag (← p.hasPrevious), p)
  | .goes .next => do
    let (page, q) ← p.next s item
    return (.page page, q)
  | .goes .previous => do
    let (page, q) ← p.previous s item
    return (.page page, q)

def Visits (s : Settings) (item : Decoder α) (p : PageIterator α) (v : Visit α)
    (q : PageIterator α) : Prop :=
  ∃ r, (p.perform s item v.call).Runs v.state v.history r v.left ∧ v.answer = r.map Prod.fst ∧
    q = (r.toOption.map Prod.snd).getD p

end PageIterator

inductive Walk {σ : Type} (R : σ → Visit α → σ → Prop) : σ → List (Visit α) → σ → Prop
  | rest (x : σ) : Walk R x [] x
  | visit {x y z : σ} {v : Visit α} {vs : List (Visit α)} (first : R x v y) (more : Walk R y vs z) :
    Walk R x (v :: vs) z

namespace Walk

variable {σ τ : Type} {R : σ → Visit α → σ → Prop} {S : τ → Visit α → τ → Prop}
  {agree : τ → σ → Prop} {x z : σ} {a : τ} {vs : List (Visit α)}

/-- Steps that are followed one by one are followed along a walk. -/
theorem follow {P : Visit α → Prop}
    (hstep : ∀ a x v y, agree a x → R x v y → P v → ∃ b, S a v b ∧ agree b y)
    (h : Walk R x vs z) (ha : agree a x) (hvs : ∀ v ∈ vs, P v) :
    ∃ b, Walk S a vs b ∧ agree b z := by
  induction h generalizing a with
  | rest x => exact ⟨a, .rest a, ha⟩
  | visit first more ih =>
    obtain ⟨hv, hvs⟩ := List.forall_mem_cons.1 hvs
    obtain ⟨b, hfirst, hb⟩ := hstep a _ _ _ ha first hv
    obtain ⟨c, hmore, hc⟩ := ih hb hvs
    exact ⟨c, .visit hfirst hmore, hc⟩

theorem filter {keep : Visit α → Bool} (hskip : ∀ x v y, R x v y → keep v = false → y = x)
    (h : Walk R x vs z) : Walk R x (vs.filter keep) z := by
  induction h with
  | rest x => exact .rest x
  | @visit x y z v vs first more ih =>
    cases hv : keep v with
    | true =>
      rw [List.filter_cons_of_pos hv]
      exact .visit first ih
    | false =>
      obtain rfl := hskip x v y first hv
      rw [List.filter_cons_of_neg (by simp [hv])]
      exact ih

end Walk

/-- The page that a page leads to in a direction: by its only link of the relation and of its own
type, or to none without such a link. -/
def Page.LeadsTo (site : Url → Option (Page α)) (p : Page α) (d : PageDirection) :
    Option (Page α) → Prop
  | none => matchingLinks p d.rel p.mediaType = []
  | some q => ∃ l, matchingLinks p d.rel p.mediaType = [l] ∧
      ∀ url, parseUrl l.href = .ok url → site url = some q

/-- Pages that lead to one another in their order, both ways. -/
structure IsPageChain (site : Url → Option (Page α)) (pages : List (Page α)) : Prop where
  next : ∀ (i : Nat) (p : Page α), pages[i]? = some p → p.LeadsTo site .next pages[i + 1]?
  previous : ∀ (i : Nat) (p : Page α), pages[i + 1]? = some p → p.LeadsTo site .previous pages[i]?
  first : ∀ p : Page α, pages[0]? = some p → p.LeadsTo site .previous none

/-- What is read at an address is the page that is there. -/
def TellsPages (site : Url → Option (Page α)) (item : Decoder α) (history : List Exchange) : Prop :=
  ∀ e ∈ history, ∀ url page, e.Reads item url page → site url = some page

theorem TellsPages.of_forall {history : List Exchange}
    (h : ∀ e ∈ history, e.outcome.result.toOption.bind (pageOf? item) = site e.request.url) :
    TellsPages site item history := by
  rintro e he url page ⟨gets, reply, hreply, hpage⟩
  rw [← gets.2, ← h e he, hreply]
  exact hpage

/-- Where an iterator is: before the page with a number, which is unread, or on it. -/
inductive Spot where
  | before (i : Nat)
  | on (i : Nat)
  deriving DecidableEq, Repr

namespace Spot

/-- The number of the page in a direction, if there is one among `n` pages. -/
def target (n : Nat) : Spot → PageDirection → Option Nat
  | .before i, .next => some i
  | .before _, .previous => none
  | .on i, .next => if i + 1 < n then some (i + 1) else none
  | .on 0, .previous => none
  | .on (i + 1), .previous => some i

theorem target_on_next (n i : Nat) :
    (on i).target n .next = if i + 1 < n then some (i + 1) else none := rfl

/-- What a visit says and does at a spot. Only a page that is not at hand is asked for, by one call
to where the page at the spot leads, and the visit comes to what this call comes to. -/
inductive Step (s : Settings) (item : Decoder α) (site : Url → Option (Page α))
    (pages : List (Page α)) (format : QueryFormat) : Spot → Visit α → Spot → Prop
  | asked (x : Spot) (d : PageDirection) (st : AuthState) : Step s item site pages format x
    ⟨.asks d, st, [], .ok (.flag (x.target pages.length d).isSome), st⟩ x
  | ended {x : Spot} {d : PageDirection} {st : AuthState}
    (last : x.target pages.length d = none) :
    Step s item site pages format x ⟨.goes d, st, [], .ok (.page none), st⟩ x
  | read {i : Nat} {page : Page α} {st : AuthState} (there : pages[i]? = some page) :
    Step s item site pages format (.before i) ⟨.goes .next, st, [], .ok (.page (some page)), st⟩
      (.on i)
  | fetched {i j : Nat} {d : PageDirection} {p : Page α} {l : Link} {url : Url}
    {response : Response (Page α)} {history : List Exchange} {st st' : AuthState}
    (target : (on i).target pages.length d = some j) (here : pages[i]? = some p)
    (only : matchingLinks p d.rel p.mediaType = [l]) (there : pages[j]? = some response.data)
    (located : parseUrl l.href = .ok url ∧ site url = some response.data)
    (call : CallsOnce s (Page.ofDocument item) l.href (some format.mediaType) st history
      (.ok response) st')
    (fetch : Fetches s url (·.Reads item url response.data) history) :
    Step s item site pages format (.on i)
      ⟨.goes d, st, history, .ok (.page (some response.data)), st'⟩ (.on j)
  | failed {i j : Nat} {d : PageDirection} {p : Page α} {l : Link} {history : List Exchange}
    {fault : Error} {st st' : AuthState} (target : (on i).target pages.length d = some j)
    (here : pages[i]? = some p) (only : matchingLinks p d.rel p.mediaType = [l])
    (call : CallsOnce s (Page.ofDocument item) l.href (some format.mediaType) st history
      (.error fault) st') :
    Step s item site pages format (.on i) ⟨.goes d, st, history, .error fault, st'⟩ (.on i)

/-- An iterator is at a spot in a list of pages; a page that is unread is one of a query with
records. -/
inductive Marks (pages : List (Page α)) (format : QueryFormat) : Spot → PageIterator α → Prop
  | before {i : Nat} {page : Page α} (there : pages[i]? = some page) (records : 0 < page.total) :
    Marks pages format (.before i) (.before format page)
  | on {i : Nat} {page : Page α} (there : pages[i]? = some page) :
    Marks pages format (.on i) (.on format page)

end Spot

/-- The cursor on a page follows the page's own link of a relation, if there is only one. -/
theorem Page.neighbour_eq (p : Page α) (rel : String) : p.cursor.neighbour rel =
    match matchingLinks p rel p.mediaType with
    | [] => .ok none
    | [l] => .ok (some l.href)
    | _ => .error (.multipleLinks (wantedLink p rel p.mediaType)) := by
  have hlinks : matchingLinks p.cursor rel p.cursor.mediaType = matchingLinks p rel p.mediaType :=
    rfl
  unfold Cursor.neighbour findLink
  rw [hlinks]
  rcases matchingLinks p rel p.mediaType with _ | ⟨l, _ | ⟨l', more⟩⟩ <;> rfl

theorem Page.LeadsTo.neighbour_none {p : Page α} {d : PageDirection} (h : p.LeadsTo site d none) :
    p.cursor.neighbour d.rel = .ok none := by
  have hlinks : matchingLinks p d.rel p.mediaType = [] := h
  rw [Page.neighbour_eq, hlinks]

theorem Page.LeadsTo.neighbour_some {p q : Page α} {d : PageDirection}
    (h : p.LeadsTo site d (some q)) : ∃ l, matchingLinks p d.rel p.mediaType = [l] ∧
      p.cursor.neighbour d.rel = .ok (some l.href) ∧
      ∀ url, parseUrl l.href = .ok url → site url = some q := by
  obtain ⟨l, hlinks, haddress⟩ := h
  refine ⟨l, hlinks, ?_, haddress⟩
  rw [Page.neighbour_eq, hlinks]

theorem Page.LeadsTo.exists_neighbour {p : Page α} {d : PageDirection} {q : Option (Page α)}
    (h : p.LeadsTo site d q) : ∃ href, p.cursor.neighbour d.rel = .ok href := by
  cases q with
  | none => exact ⟨_, h.neighbour_none⟩
  | some q =>
    obtain ⟨l, -, hneighbour, -⟩ := h.neighbour_some
    exact ⟨_, hneighbour⟩

namespace PageIterator

/-- On a page an iterator follows the link in a direction, if there is one. -/
theorem step_on (p : Page α) (d : PageDirection) : (on format p).step d =
    (p.cursor.neighbour d.rel).map fun href => href.elim .stay .fetch := by
  have hcursor : (on format p).cursor = p.cursor := rfl
  cases d with
  | next =>
    unfold step forward PageDirection.rel
    rw [hcursor]
    cases p.cursor.neighbour "nextPage" with
    | error e => rfl
    | ok href => cases href <;> rfl
  | previous =>
    unfold step backward PageDirection.rel
    rw [hcursor]
    cases p.cursor.neighbour "previousPage" with
    | error e => rfl
    | ok href => cases href <;> rfl

theorem forward_before (f : QueryFormat) (p : Page α) : (before f p).forward =
    (p.cursor.neighbour "nextPage").map fun next =>
      if 0 < p.total ∨ next.isSome then .read p else .stay := by
  have hcursor : (before f p).cursor = p.cursor := rfl
  unfold forward
  rw [hcursor]
  cases p.cursor.neighbour "nextPage" <;> rfl

/-- Before a page of a query with records only that page can be read. -/
theorem step_before {p : Page α} (records : 0 < p.total) (d : PageDirection) :
    (before format p).step d = (p.cursor.neighbour d.rel).map fun _ =>
      if d = .next then .read p else .stay := by
  cases d with
  | next =>
    unfold step PageDirection.rel
    rw [forward_before]
    simp only [records, true_or, if_true]
  | previous =>
    have hcursor : (before format p).cursor = p.cursor := rfl
    unfold step backward PageDirection.rel
    rw [hcursor]
    cases p.cursor.neighbour "previousPage" <;> rfl

theorem perform_asks (p : PageIterator α) (d : PageDirection) :
    p.perform s item (.asks d) =
      liftM ((p.step d).map fun step => (PageAnswer.flag (α := α) step.yields, p)) := by
  cases d with
  | next =>
    unfold perform hasNext step
    cases p.forward <;> rfl
  | previous =>
    unfold perform hasPrevious step
    cases p.backward <;> rfl

theorem perform_goes (p : PageIterator α) (d : PageDirection) :
    p.perform s item (.goes d) = liftM (p.step d) >>= fun step => p.take s item step >>= fun x =>
      pure (.page x.1, x.2) := by
  cases d with
  | next =>
    unfold perform next step
    rw [bind_assoc]
  | previous =>
    unfold perform previous step
    rw [bind_assoc]

-- What a visit says follows from its step alone; only a fetch leaves it to the server.

theorem Visits.asked {p q : PageIterator α} {d : PageDirection} {v : Visit α} {step : PageStep α}
    (h : p.Visits s item v q) (hcall : v.call = .asks d) (hstep : p.step d = .ok step) :
    v = ⟨.asks d, v.state, [], .ok (.flag step.yields), v.state⟩ ∧ q = p := by
  obtain ⟨r, hruns, hanswer, hq⟩ := h
  obtain ⟨call, st, history, answer, st'⟩ := v
  cases hcall
  rw [perform_asks, hstep] at hruns
  obtain ⟨hhistory, rfl, hleft⟩ := Action.runs_result.1 hruns
  cases hhistory
  cases hleft
  cases hanswer
  exact ⟨rfl, hq⟩

theorem Visits.went {p q : PageIterator α} {d : PageDirection} {v : Visit α} {step : PageStep α}
    (h : p.Visits s item v q) (hcall : v.call = .goes d) (hstep : p.step d = .ok step) :
    ∃ r, (p.take s item step).Runs v.state v.history r v.left ∧
      v.answer = r.map (fun x => .page x.1) ∧ q = (r.toOption.map Prod.snd).getD p := by
  obtain ⟨_, hruns, hanswer, hq⟩ := h
  rw [hcall, perform_goes, hstep, Action.runs_ok_bind] at hruns
  obtain ⟨r, htake, rfl⟩ := Action.runs_bind_pure.1 hruns
  refine ⟨r, htake, ?_, ?_⟩
  · rw [hanswer]
    cases r <;> rfl
  · rw [hq]
    cases r <;> rfl

theorem Visits.stayed {p q : PageIterator α} {d : PageDirection} {v : Visit α}
    (h : p.Visits s item v q) (hcall : v.call = .goes d) (hstep : p.step d = .ok .stay) :
    v = ⟨.goes d, v.state, [], .ok (.page none), v.state⟩ ∧ q = p := by
  obtain ⟨r, htake, hanswer, hq⟩ := h.went hcall hstep
  obtain ⟨call, st, history, answer, st'⟩ := v
  cases hcall
  obtain ⟨hhistory, rfl, hleft⟩ := Action.runs_pure.1 htake
  cases hhistory
  cases hleft
  cases hanswer
  exact ⟨rfl, hq⟩

theorem Visits.read {q : PageIterator α} {page : Page α} {d : PageDirection} {v : Visit α}
    (h : (before format page).Visits s item v q) (hcall : v.call = .goes d)
    (hstep : (before format page).step d = .ok (.read page)) :
    v = ⟨.goes d, v.state, [], .ok (.page (some page)), v.state⟩ ∧ q = .on format page := by
  obtain ⟨r, htake, hanswer, hq⟩ := h.went hcall hstep
  obtain ⟨call, st, history, answer, st'⟩ := v
  cases hcall
  obtain ⟨hhistory, rfl, hleft⟩ := Action.runs_pure.1 htake
  cases hhistory
  cases hleft
  cases hanswer
  exact ⟨rfl, hq⟩

/-- A step that fetches comes to what one call for the page comes to. -/
theorem runs_take_fetch {p : PageIterator α} {href : String} {st st' : AuthState}
    {history : List Exchange} {r : Result (Option (Page α) × PageIterator α)} :
    (p.take s item (.fetch href)).Runs st history r st' ↔
      ∃ x, CallsOnce s (Page.ofDocument item) href (some p.format.mediaType) st history x st' ∧
        r = x.map fun response => (some response.data, .on p.format response.data) := by
  unfold take
  rw [Action.runs_bind_pure]
  simp only [runs_getTyped]

theorem Visits.fetched {p q : PageIterator α} {d : PageDirection} {v : Visit α} {href : String}
    (h : p.Visits s item v q) (hcall : v.call = .goes d) (hstep : p.step d = .ok (.fetch href)) :
    ∃ x, CallsOnce s (Page.ofDocument item) href (some p.format.mediaType) v.state v.history x
        v.left ∧
      v.answer = x.map (fun response => .page (some response.data)) ∧
      q = (x.toOption.map fun response => .on p.format response.data).getD p := by
  obtain ⟨r, htake, hanswer, hq⟩ := h.went hcall hstep
  obtain ⟨x, hcalls, rfl⟩ := runs_take_fetch.1 htake
  refine ⟨x, hcalls, ?_, ?_⟩
  · rw [hanswer]
    cases x <;> rfl
  · rw [hq]
    cases x <;> rfl

end PageIterator

namespace IsPageChain

variable {i j : Nat} {p : Page α} {d : PageDirection}

theorem target_none (h : IsPageChain site pages) (there : pages[i]? = some p)
    (htarget : (Spot.on i).target pages.length d = none) : p.LeadsTo site d none := by
  cases d with
  | next =>
    have hnone : pages[i + 1]? = none := by
      rw [Spot.target_on_next] at htarget
      split at htarget
      · cases htarget
      · exact List.getElem?_eq_none (Nat.le_of_not_lt ‹_›)
    exact hnone ▸ h.next i p there
  | previous =>
    cases i with
    | zero => exact h.first p there
    | succ i => cases htarget

theorem target_some (h : IsPageChain site pages) (there : pages[i]? = some p)
    (htarget : (Spot.on i).target pages.length d = some j) :
    ∃ q, pages[j]? = some q ∧ p.LeadsTo site d (some q) := by
  cases d with
  | next =>
    rw [Spot.target_on_next] at htarget
    split at htarget
    case isFalse => cases htarget
    case isTrue hlt =>
      obtain rfl := Option.some.inj htarget
      have hnext := h.next i p there
      rw [List.getElem?_eq_getElem hlt] at hnext ⊢
      exact ⟨_, rfl, hnext⟩
  | previous =>
    cases i with
    | zero => cases htarget
    | succ i =>
      obtain rfl := Option.some.inj htarget
      have hlt : i < pages.length := by
        obtain ⟨hbound, -⟩ := List.getElem?_eq_some_iff.1 there
        omega
      have hprevious := h.previous i p there
      rw [List.getElem?_eq_getElem hlt] at hprevious ⊢
      exact ⟨_, rfl, hprevious⟩

theorem exists_neighbour (h : IsPageChain site pages) (there : pages[i]? = some p)
    (d : PageDirection) : ∃ href, p.cursor.neighbour d.rel = .ok href := by
  cases htarget : (Spot.on i).target pages.length d with
  | none => exact (h.target_none there htarget).exists_neighbour
  | some j =>
    obtain ⟨q, -, hleads⟩ := h.target_some there htarget
    exact hleads.exists_neighbour

end IsPageChain

theorem Spot.step_before (hchain : IsPageChain site pages) {i : Nat} {page : Page α}
    {q : PageIterator α} {v : Visit α} (there : pages[i]? = some page) (records : 0 < page.total)
    (h : (PageIterator.before format page).Visits s item v q) :
    ∃ y, (before i).Step s item site pages format v y ∧ y.Marks pages format q := by
  have hstep (d : PageDirection) : (PageIterator.before format page).step d =
      .ok (if d = .next then .read page else .stay) := by
    obtain ⟨href, hneighbour⟩ := hchain.exists_neighbour there d
    rw [PageIterator.step_before records, hneighbour]
    rfl
  cases hcall : v.call with
  | asks d =>
    obtain ⟨hv, rfl⟩ := h.asked hcall (hstep d)
    have hflag : (if d = .next then .read page else .stay : PageStep α).yields =
        ((before i).target pages.length d).isSome := by
      cases d <;> rfl
    rw [hv, hflag]
    exact ⟨.before i, .asked (.before i) d v.state, .before there records⟩
  | goes d =>
    cases d with
    | next =>
      obtain ⟨hv, rfl⟩ := h.read hcall (hstep .next)
      rw [hv]
      exact ⟨.on i, .read there, .on there⟩
    | previous =>
      obtain ⟨hv, rfl⟩ := h.stayed hcall (hstep .previous)
      rw [hv]
      exact ⟨.before i, .ended rfl, .before there records⟩

theorem Spot.step_on (hchain : IsPageChain site pages) {i : Nat} {page : Page α}
    {q : PageIterator α} {v : Visit α} (there : pages[i]? = some page)
    (h : (PageIterator.on format page).Visits s item v q)
    (htells : TellsPages site item v.history) :
    ∃ y, (on i).Step s item site pages format v y ∧ y.Marks pages format q := by
  have hstay (d : PageDirection) (htarget : (on i).target pages.length d = none) :
      (PageIterator.on format page).step d = .ok .stay := by
    rw [PageIterator.step_on, (hchain.target_none there htarget).neighbour_none]
    rfl
  have hfetch (d : PageDirection) (j : Nat) (htarget : (on i).target pages.length d = some j) :
      ∃ next l, pages[j]? = some next ∧ matchingLinks page d.rel page.mediaType = [l] ∧
        (PageIterator.on format page).step d = .ok (.fetch l.href) ∧
          ∀ url, parseUrl l.href = .ok url → site url = some next := by
    obtain ⟨next, hnext, hleads⟩ := hchain.target_some there htarget
    obtain ⟨l, honly, hneighbour, haddress⟩ := hleads.neighbour_some
    refine ⟨next, l, hnext, honly, ?_, haddress⟩
    rw [PageIterator.step_on, hneighbour]
    rfl
  cases hcall : v.call with
  | asks d =>
    obtain ⟨step, hstep, hflag⟩ : ∃ step, (PageIterator.on format page).step d = .ok step ∧
        step.yields = ((on i).target pages.length d).isSome := by
      cases htarget : (on i).target pages.length d with
      | none => exact ⟨.stay, hstay d htarget, rfl⟩
      | some j =>
        obtain ⟨next, l, -, -, hstep, -⟩ := hfetch d j htarget
        exact ⟨_, hstep, rfl⟩
    obtain ⟨hv, rfl⟩ := h.asked hcall hstep
    rw [hv, hflag]
    exact ⟨.on i, .asked (.on i) d v.state, .on there⟩
  | goes d =>
    cases htarget : (on i).target pages.length d with
    | none =>
      obtain ⟨hv, rfl⟩ := h.stayed hcall (hstay d htarget)
      rw [hv]
      exact ⟨.on i, .ended htarget, .on there⟩
    | some j =>
      obtain ⟨next, l, hnext, honly, hstep, haddress⟩ := hfetch d j htarget
      obtain ⟨x, hcalls, hanswer, rfl⟩ := h.fetched hcall hstep
      obtain ⟨call, st, history, answer, st'⟩ := v
      cases hcall
      cases x with
      | error fault =>
        cases hanswer
        exact ⟨.on i, .failed htarget there honly hcalls, .on there⟩
      | ok response =>
        cases hanswer
        obtain ⟨url, hurl, hfetches⟩ := hcalls.fetches
        have hsite := haddress url hurl
        -- The server tells the page at the address, which is the one that the link leads to.
        obtain rfl : response.data = next := by
          obtain ⟨e, he, hreads⟩ := hfetches.exists_last
          have htold := htells e he url response.data hreads
          exact Option.some.inj (htold.symm.trans hsite)
        exact ⟨.on j, .fetched htarget there honly hnext ⟨hurl, hsite⟩ hcalls hfetches, .on hnext⟩

/-- Every visit to an iterator on a chain is what the spot of the iterator says. -/
theorem Spot.Marks.step (hchain : IsPageChain site pages) {x : Spot} {p q : PageIterator α}
    {v : Visit α} (hmarks : x.Marks pages format p) (h : p.Visits s item v q)
    (htells : TellsPages site item v.history) :
    ∃ y, x.Step s item site pages format v y ∧ y.Marks pages format q := by
  cases hmarks with
  | before there records => exact Spot.step_before hchain there records h
  | on there => exact Spot.step_on hchain there h htells

-- Steps are determined where the server answers.

theorem Spot.Step.of_asks {x y : Spot} {d : PageDirection} {v : Visit α}
    (h : x.Step s item site pages format v y) (hcall : v.call = .asks d) :
    v.history = [] ∧ v.answer = .ok (.flag (x.target pages.length d).isSome) ∧ y = x := by
  cases h with
  | asked x d st =>
    cases hcall
    exact ⟨rfl, rfl, rfl⟩
  | _ => cases hcall

theorem Spot.Step.of_before {i : Nat} {page : Page α} {y : Spot} {v : Visit α}
    (h : (before i).Step s item site pages format v y) (hcall : v.call = .goes .next)
    (there : pages[i]? = some page) :
    v.history = [] ∧ v.answer = .ok (.page (some page)) ∧ y = .on i := by
  cases h with
  | asked => cases hcall
  | ended last =>
    cases hcall
    cases last
  | read other =>
    obtain rfl := Option.some.inj (other.symm.trans there)
    exact ⟨rfl, rfl, rfl⟩

/-- Every request of a visit can be put together and is answered with a page. -/
structure Visit.IsServed (s : Settings) (item : Decoder α) (format : QueryFormat) (v : Visit α) :
    Prop where
  fit : ∀ url, ((readingPlan (some format.mediaType) url).attempt none v.state).IsFit s
  pages : ∀ e ∈ v.history, ∃ reply, e.outcome.result = .ok reply ∧
    (pageOf? item reply).isSome = true

/-- Where a page leads to another one, that one is given for one request. -/
theorem Spot.Step.of_served {i j : Nat} {d : PageDirection} {p page : Page α} {l : Link} {url : Url}
    {y : Spot} {v : Visit α} (h : (on i).Step s item site pages format v y)
    (hcall : v.call = .goes d) (hserved : v.IsServed s item format)
    (htarget : (on i).target pages.length d = some j) (here : pages[i]? = some p)
    (only : matchingLinks p d.rel p.mediaType = [l]) (address : parseUrl l.href = .ok url)
    (there : pages[j]? = some page) :
    (∃ e, v.history = [e] ∧ e.Reads item url page) ∧ v.answer = .ok (.page (some page)) ∧
      y = .on j := by
  cases h with
  | asked => cases hcall
  | ended last =>
    cases hcall
    cases last.symm.trans htarget
  | fetched target here' only' there' _ call =>
    cases hcall
    obtain rfl := Option.some.inj (target.symm.trans htarget)
    obtain rfl := Option.some.inj (here'.symm.trans here)
    obtain rfl := List.singleton_inj.1 (only'.symm.trans only)
    obtain rfl := Option.some.inj (there'.symm.trans there)
    obtain ⟨e, response, hhistory, hreads, hanswer, -⟩ :=
      call.reads_once address (hserved.fit url) hserved.pages
    obtain rfl := Except.ok.inj hanswer
    exact ⟨⟨e, hhistory, hreads⟩, rfl, rfl⟩
  | failed target here' only' call =>
    cases hcall
    obtain rfl := Option.some.inj (here'.symm.trans here)
    obtain rfl := List.singleton_inj.1 (only'.symm.trans only)
    obtain ⟨e, response, -, -, hanswer, -⟩ :=
      call.reads_once address (hserved.fit url) hserved.pages
    cases hanswer

namespace PageIterator

theorem exists_visits (p : PageIterator α) (s : Settings) (item : Decoder α) (turn : PageTurn) :
    ∃ v q, p.Visits s item v q ∧ v.Makes turn := by
  obtain ⟨history, r, st', hruns, hserver⟩ :=
    (p.perform s item turn.call).exists_runs turn.state turn.server
  exact ⟨⟨turn.call, turn.state, history, r.map Prod.fst, st'⟩, _, ⟨r, hruns, rfl, rfl⟩, rfl, rfl,
    hserver⟩

/-- Calls are made one after the other, each in a context and against a server of its own. -/
theorem exists_walk (p : PageIterator α) (s : Settings) (item : Decoder α)
    (turns : List PageTurn) : ∃ visits q,
      Walk (Visits s item) p visits q ∧ List.Forall₂ Visit.Makes visits turns := by
  induction turns generalizing p with
  | nil => exact ⟨[], p, .rest p, .nil⟩
  | cons turn turns ih =>
    obtain ⟨v, q, hvisits, hmakes⟩ := p.exists_visits s item turn
    obtain ⟨visits, r, hwalk, hall⟩ := ih q
    exact ⟨v :: visits, r, .visit hvisits hwalk, .cons hmakes hall⟩

/-- Who makes a call that fails is left with the same iterator. -/
theorem Visits.unchanged {p q : PageIterator α} {v : Visit α} (h : p.Visits s item v q)
    (hfailed : v.answer.isOk = false) : q = p := by
  obtain ⟨r, -, hanswer, hq⟩ := h
  cases r with
  | error fault => exact hq
  | ok x =>
    rw [hanswer] at hfailed
    cases hfailed

/-- An iterator before a page of a chain with records is a cursor on that chain. Calls can be made
in any order, in any contexts and against any servers. If the servers tell the pages, then all calls
are what the spot of the iterator says, and they stay so without those that failed. -/
theorem walk_cursor (hchain : IsPageChain site pages) {k : Nat} {first : Page α}
    (hfirst : pages[k]? = some first) (hrecords : 0 < first.total) :
    (∀ turns, ∃ visits q, Walk (Visits s item) (before format first) visits q ∧
        List.Forall₂ Visit.Makes visits turns) ∧
      ∀ visits q, Walk (Visits s item) (before format first) visits q →
        (∀ v ∈ visits, TellsPages site item v.history) →
          (∃ y, Walk (Spot.Step s item site pages format) (.before k) visits y ∧
            y.Marks pages format q) ∧
            Walk (Visits s item) (before format first) (visits.filter (·.answer.isOk)) q := by
  refine ⟨fun turns => exists_walk _ s item turns, fun visits q hwalk htells => ⟨?_, ?_⟩⟩
  · refine hwalk.follow (P := fun v => TellsPages site item v.history) ?_
      (.before hfirst hrecords) htells
    intro x p v q hmarks hvisits htold
    exact hmarks.step hchain hvisits htold
  · apply hwalk.filter
    intro p v q hvisits hfailed
    exact hvisits.unchanged hfailed

/-- A chain of two pages, and a walk from the first to the second and back: the first page is at
hand, and then each page is asked for once. -/
theorem walk_cursor_there_and_back : ∃ (s : Settings) (item : Decoder Unit)
    (site : Url → Option (Page Unit)) (first second : Page Unit) (home away : Url)
    (visits : List (Visit Unit)) (q : PageIterator Unit),
      parseUrl "https://vcd/1" = .ok home ∧ parseUrl "https://vcd/2" = .ok away ∧
      IsPageChain site [first, second] ∧ 0 < first.total ∧
      (∀ v ∈ visits, TellsPages site item v.history) ∧
      Walk (Visits s item) (before .records first) visits q ∧
      visits.map Visit.call = [.goes .next, .goes .next, .asks .previous, .goes .previous] ∧
      visits.map Visit.answer =
        [.ok (.page (some first)), .ok (.page (some second)), .ok (.flag true),
          .ok (.page (some first))] ∧
      visits.map (fun v => v.history.map fun e => (e.request.method, e.request.url)) =
        [[], [(.get, away)], [], [(.get, home)]] := by
  let endpoint : Url :=
    ⟨"https".toList, some ⟨[], none, "vcd".toList, none⟩, .segments ["api".toList, []], none, none⟩
  let s : Settings := { Settings.ofEndpoint endpoint with requestIds := .off }
  let item : Decoder Unit := fun _ => some ()
  let first : Page Unit :=
    ⟨none, none, none, 0, 0, 1, [⟨"nextPage", "https://vcd/2", none, none⟩], []⟩
  let second : Page Unit :=
    ⟨none, none, none, 0, 0, 0, [⟨"previousPage", "https://vcd/1", none, none⟩], []⟩
  obtain ⟨home, hhome⟩ : ∃ url, parseUrl "https://vcd/1" = .ok url :=
    Result.exists_of_isOk (by decide +kernel)
  obtain ⟨away, haway⟩ : ∃ url, parseUrl "https://vcd/2" = .ok url :=
    Result.exists_of_isOk (by decide +kernel)
  have hdistinct : away ≠ home := by
    have hparsed : (parseUrl "https://vcd/2").toOption ≠ (parseUrl "https://vcd/1").toOption := by
      decide +kernel
    rintro rfl
    rw [haway, hhome] at hparsed
    exact hparsed rfl
  let there (url : Url) : Page Unit := if url = home then first else second
  let site (url : Url) : Option (Page Unit) := some (there url)
  let reply (p : Page Unit) : Reply := ⟨.ok, .empty, (p.toJson fun _ => .null).text⟩
  let server (_ : List Exchange) (r : Request) : Outcome := .reply (reply (there r.url))
  have hchain : IsPageChain site [first, second] := by
    refine ⟨?_, ?_, ?_⟩
    · rintro (_ | _ | i) p hp
      · cases hp
        refine ⟨_, rfl, fun url hurl => ?_⟩
        obtain rfl : url = away := Except.ok.inj (hurl.symm.trans haway)
        exact congrArg some (if_neg hdistinct)
      · cases hp
        rfl
      · cases hp
    · rintro (_ | i) p hp
      · cases hp
        refine ⟨_, rfl, fun url hurl => ?_⟩
        have heq : url = home := Except.ok.inj (hurl.symm.trans hhome)
        exact congrArg some (if_pos heq)
      · cases hp
    · intro p hp
      cases hp
      rfl
  have hread (p : Page Unit) (hp : p = first ∨ p = second) :
      pageOf? item (reply p) = some p := by
    rcases hp with rfl | rfl <;> decide +kernel
  have htells (history : List Exchange) (hserver : AnsweredBy server history) :
      TellsPages site item history := by
    refine .of_forall fun e he => ?_
    obtain ⟨i, hi⟩ := List.getElem?_of_mem he
    rw [hserver i e hi]
    exact hread _ (ite_eq_or_eq _ _ _)
  have hgets {e : Exchange} {url : Url} {page : Page Unit} (h : e.Reads item url page) :
      (e.request.method, e.request.url) = (.get, url) := Prod.ext h.gets.1 h.gets.2
  let turn (call : PageCall) : PageTurn := ⟨call, .empty, server⟩
  have haccept : isHeaderValue (s.versioned Media.records) = true := by decide +kernel
  have hserved {v : Visit Unit} {call : PageCall} (h : v.Makes (turn call)) :
      v.IsServed s item .records := by
    constructor
    · intro url
      rw [h.state]
      exact Attempt.isFit_of_unsigned rfl rfl haccept rfl rfl
    · intro e he
      obtain ⟨i, hi⟩ := List.getElem?_of_mem he
      refine ⟨reply (there e.request.url), by rw [h.answered i e hi]; rfl, ?_⟩
      rw [hread _ (ite_eq_or_eq _ _ _)]
      rfl
  obtain ⟨hmake, hfollow⟩ :=
    @walk_cursor Unit s item site [first, second] .records hchain 0 first rfl Nat.one_pos
  obtain ⟨visits, q, hwalk, hmakes⟩ := hmake
    [turn (.goes .next), turn (.goes .next), turn (.asks .previous), turn (.goes .previous)]
  obtain _ | ⟨h₁, _ | ⟨h₂, _ | ⟨h₃, _ | ⟨h₄, ⟨⟩⟩⟩⟩⟩ := hmakes
  rename_i v₁ v₂ v₃ v₄
  have htold : ∀ v ∈ [v₁, v₂, v₃, v₄], TellsPages site item v.history := by
    simp only [List.forall_mem_cons]
    exact ⟨htells _ h₁.answered, htells _ h₂.answered, htells _ h₃.answered, htells _ h₄.answered,
      List.forall_mem_nil _⟩
  obtain ⟨⟨y, hspots, -⟩, -⟩ := hfollow _ q hwalk htold
  obtain _ | ⟨step₁, _ | ⟨step₂, _ | ⟨step₃, _ | ⟨step₄, -⟩⟩⟩⟩ := hspots
  obtain ⟨hnone₁, hanswer₁, rfl⟩ := step₁.of_before h₁.call rfl
  obtain ⟨⟨e₂, hone₂, hreads₂⟩, hanswer₂, rfl⟩ :=
    step₂.of_served h₂.call (hserved h₂) rfl rfl rfl haway rfl
  obtain ⟨hnone₃, hanswer₃, rfl⟩ := step₃.of_asks h₃.call
  obtain ⟨⟨e₄, hone₄, hreads₄⟩, hanswer₄, rfl⟩ :=
    step₄.of_served h₄.call (hserved h₄) rfl rfl rfl hhome rfl
  refine ⟨s, item, site, first, second, home, away, _, q, hhome, haway, hchain, Nat.one_pos, htold,
    hwalk, ?_, ?_, ?_⟩
  · simp only [List.map_cons, List.map_nil, h₁.call, h₂.call, h₃.call, h₄.call]
    rfl
  · simp only [List.map_cons, List.map_nil, hanswer₁, hanswer₂, hanswer₃, hanswer₄]
    rfl
  · simp only [List.map_cons, List.map_nil, hnone₁, hone₂, hnone₃, hone₄, hgets hreads₂,
      hgets hreads₄]

end PageIterator

end CloudDirector
