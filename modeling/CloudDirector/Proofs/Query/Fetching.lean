import CloudDirector.Proofs.Client.Reading
import CloudDirector.Resource.Page

/-!
# Fetching pages

A call that yields a page has read it by its last request. The requests before that one failed, and
each was sent again because the classifier said so, perhaps after a log-in.
-/
namespace CloudDirector
open Http Json

variable {α : Type} {s : Settings} {item : Decoder α} {st st' : AuthState}
  {history : List Exchange} {url : Url} {href : String} {mediaType : Option String}

def pageOf? (item : Decoder α) (reply : Reply) : Option (Page α) :=
  (Document.ofText? reply.body).bind (Page.ofDocument item)

/-- An exchange reads a page at an address. -/
structure Exchange.Reads (e : Exchange) (item : Decoder α) (url : Url) (page : Page α) :
    Prop where
  gets : e.Gets url
  answered : ∃ reply, e.outcome.result = .ok reply ∧ pageOf? item reply = some page

/-- What is exchanged to read an address: one exchange that is as `last` says, or one that fails and
is sent again, with what a log-in posts before it is. -/
inductive Fetches (s : Settings) (url : Url) (last : Exchange → Prop) : List Exchange → Prop
  | once {e : Exchange} (answered : last e) : Fetches s url last [e]
  | again {e : Exchange} {f : Failure} {n : Nat} {login rest : List Exchange} (gets : e.Gets url)
    (failed : e.outcome.result = .error f) (retries : s.classifier.retries f n = true)
    (posts : ∀ x ∈ login, x.request.method = .post) (more : Fetches s url last rest) :
    Fetches s url last (e :: (login ++ rest))

namespace Fetches

variable {last last' : Exchange → Prop}

theorem imp (h : Fetches s url last history) (hlast : ∀ e, last e → last' e) :
    Fetches s url last' history := by
  induction h with
  | once answered => exact .once (hlast _ answered)
  | again gets failed retries posts more ih => exact .again gets failed retries posts ih

theorem exists_last (h : Fetches s url last history) : ∃ e ∈ history, last e := by
  induction h with
  | once answered => exact ⟨_, List.mem_singleton.2 rfl, answered⟩
  | again gets failed retries posts more ih =>
    obtain ⟨e, he, hlast⟩ := ih
    exact ⟨e, List.mem_cons_of_mem _ (List.mem_append_right _ he), hlast⟩

end Fetches

theorem relogin_posts {r : Result Unit} (h : (relogin s).Runs st history r st') :
    ∀ e ∈ history, e.request.method = .post := by
  have hway : (LoginWay.relogin.action s).Runs st history r st' := h
  rcases LoginWay.runs_cases hway with ⟨x, hx, hruns⟩ | ⟨-, rfl, -, -⟩
  · obtain ⟨c, -, rfl⟩ := Option.map_eq_some_iff.1 hx
    obtain ⟨id, now, later, -, ⟨_, -, rfl, -⟩ | ⟨request, o, hrequest, rfl, -⟩⟩ := hruns
    · exact List.forall_mem_nil _
    · intro e he
      rw [List.mem_singleton.1 he]
      exact (Transaction.login_target hrequest).1
  · exact List.forall_mem_nil _

theorem beforeRetry_posts {x : AuthState} {f : Failure} {r : Result Unit}
    (h : (beforeRetry s x f).Runs st history r st') :
    ∀ e ∈ history, e.request.method = .post := by
  rcases beforeRetry_cases h with ⟨rfl, -, -⟩ | ⟨hlogin, -⟩ | ⟨e, hlogin, -, -⟩
  · exact List.forall_mem_nil _
  · exact relogin_posts hlogin
  · exact relogin_posts hlogin

/-- A call that reads ends with the attempt that is answered. -/
theorem CallRounds.fetches {n m : Nat} {rounds : List Round} {reply : Reply}
    (h : CallRounds s (readingPlan mediaType url) none n st rounds (.ok (reply, m)) st') :
    Fetches s url (fun e => e.Gets url ∧ e.outcome.result = .ok reply)
      (rounds.flatMap Round.exchanges) := by
  generalize hr : (Except.ok (reply, m) : Result (Reply × Nat)) = r at h
  induction h with
  | unfit number fault => cases hr
  | failed sent outcome => cases hr
  | renewalFailed sent outcome retries between => cases hr
  | answered sent outcome =>
    cases hr
    exact .once ⟨sent.gets, outcome⟩
  | again sent outcome retries between more ih =>
    exact .again sent.gets outcome retries (beforeRetry_posts between) (ih hr)

theorem readAs_page {reply : Reply} {n : Nat} :
    readAs (Page.ofDocument item) (reply, n) =
      match pageOf? item reply with
      | some page => .ok ⟨page, reply.body, reply.status, reply.headers, n⟩
      | none => .error (.undecodable reply.status reply.body) := by
  unfold readAs Response.decode pageOf?
  cases (Document.ofText? reply.body).bind (Page.ofDocument item) <;> rfl

theorem ReadsAt.fetches {response : Response (Page α)}
    (h : ReadsAt s (Page.ofDocument item) mediaType url st history (.ok response) st') :
    Fetches s url (·.Reads item url response.data) history := by
  obtain ⟨rounds, y, rfl, hrounds, hx⟩ := h
  obtain ⟨⟨reply, n⟩, rfl, hread⟩ := Result.bind_eq_ok.1 hx.symm
  rw [readAs_page] at hread
  cases hpage : pageOf? item reply with
  | none =>
    rw [hpage] at hread
    cases hread
  | some page =>
    rw [hpage] at hread
    cases hread
    refine hrounds.fetches.imp ?_
    rintro e ⟨hgets, hreply⟩
    exact ⟨hgets, reply, hreply, hpage⟩

theorem CallsOnce.fetches {response : Response (Page α)}
    (h : CallsOnce s (Page.ofDocument item) href mediaType st history (.ok response) st') :
    ∃ url, parseUrl href = .ok url ∧ Fetches s url (·.Reads item url response.data) history := by
  cases h with
  | called address reads => exact ⟨_, address, reads.fetches⟩

/-- A page that is there for a request which succeeds is read by this request. -/
theorem CallsOnce.reads_once {x : Result (Response (Page α))}
    (h : CallsOnce s (Page.ofDocument item) href mediaType st history x st')
    (address : parseUrl href = .ok url)
    (hfit : ((readingPlan mediaType url).attempt none st).IsFit s)
    (hpages : ∀ e ∈ history, ∃ reply, e.outcome.result = .ok reply ∧
      (pageOf? item reply).isSome = true) : ∃ e response,
      history = [e] ∧ e.Reads item url response.data ∧ x = .ok response ∧ st' = st := by
  have hsuccess : ∀ e ∈ history, e.outcome.result.isOk = true := by
    intro e he
    obtain ⟨reply, hreply, -⟩ := hpages e he
    rw [hreply]
    rfl
  obtain ⟨e, reply, rfl, hgets, hreply, rfl, hstate⟩ := (h.readsAt address).of_success hfit hsuccess
  obtain ⟨other, hother, hpage⟩ := hpages e (List.mem_singleton_self e)
  obtain rfl := Except.ok.inj (hreply.symm.trans hother)
  obtain ⟨page, hpage⟩ := Option.isSome_iff_exists.1 hpage
  refine ⟨e, ⟨page, reply.body, reply.status, reply.headers, 1⟩, rfl, ⟨hgets, reply, hreply, hpage⟩,
    ?_, hstate⟩
  rw [readAs_page, hpage]

end CloudDirector
