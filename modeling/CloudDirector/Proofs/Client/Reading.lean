import CloudDirector.Client.Verbs
import CloudDirector.Proofs.Client.Limits

/-!
# Calls that read

A call that reads an address goes in rounds, all of which ask for what is there, and the reply at
their end is read. It exchanges nothing only if the address is no URL or no request can be put
together for it. If every request succeeds then there is one.
-/
namespace CloudDirector
open Http Json

variable {α : Type} {s : Settings} {item : Decoder α} {p : RequestPlan} {url : Url}
  {href : String} {mediaType : Option String} {st st' : AuthState} {history : List Exchange}

/-- A request that reads a URL, as a media type or as any JSON. -/
def readingPlan (mediaType : Option String) (url : Url) : RequestPlan :=
  { RequestPlan.make .get url with accept := mediaType, contentType := mediaType }

theorem planFor_get (href : String) (mediaType : Option String) :
    planFor .get href mediaType = (parseUrl href).map (readingPlan mediaType) := by
  unfold planFor
  cases parseUrl href <;> rfl

def readAs (item : Decoder α) (x : Reply × Nat) : Result (Response α) :=
  (⟨(), x.1.body, x.1.status, x.1.headers, x.2⟩ : Response Unit).decode item

theorem call_eq : call s item p none = execute s p none >>= fun x => liftM (readAs item x) := by
  unfold call callRaw callText
  simp only [Contents.encodeOption, bind_assoc]
  rfl

/-- An exchange asks for what is at a URL. -/
def Exchange.Gets (e : Exchange) (url : Url) : Prop :=
  e.request.method = .get ∧ e.request.url = url

theorem Exchange.Attempts.gets {e : Exchange}
    (sent : e.Attempts s (readingPlan mediaType url) none st) : e.Gets url := sent.target

/-- One call that reads what is at a URL: its rounds, and what is read at their end. -/
def ReadsAt (s : Settings) (item : Decoder α) (mediaType : Option String) (url : Url)
    (st : AuthState) (history : List Exchange) (x : Result (Response α)) (st' : AuthState) : Prop :=
  ∃ rounds y, history = rounds.flatMap Round.exchanges ∧
    CallRounds s (readingPlan mediaType url) none 1 st rounds y st' ∧ x = y >>= readAs item

/-- One call that reads what is at an address. It asks nothing if the address is no URL. -/
inductive CallsOnce (s : Settings) (item : Decoder α) (href : String) (mediaType : Option String)
    (st : AuthState) : List Exchange → Result (Response α) → AuthState → Prop
  | unaddressed {fault : Error} (address : parseUrl href = .error fault) :
    CallsOnce s item href mediaType st [] (.error fault) st
  | called {url : Url} {history : List Exchange} {x : Result (Response α)} {st' : AuthState}
    (address : parseUrl href = .ok url)
    (reads : ReadsAt s item mediaType url st history x st') :
    CallsOnce s item href mediaType st history x st'

theorem runs_call {x : Result (Response α)} :
    (call s item (readingPlan mediaType url) none).Runs st history x st' ↔
      ReadsAt s item mediaType url st history x st' := by
  rw [call_eq, Action.runs_bind_result]
  simp only [runs_execute]
  constructor
  · rintro ⟨y, ⟨rounds, hhistory, hrounds⟩, hx⟩
    exact ⟨rounds, y, hhistory, hrounds, hx⟩
  · rintro ⟨rounds, y, hhistory, hrounds, hx⟩
    exact ⟨y, ⟨rounds, hhistory, hrounds⟩, hx⟩

/-- The runs of a call that reads are what it is said to be. -/
theorem runs_getAs {x : Result (Response α)} :
    (getAs s item href mediaType).Runs st history x st' ↔
      CallsOnce s item href mediaType st history x st' := by
  unfold getAs
  rw [planFor_get]
  constructor
  · intro h
    cases hurl : parseUrl href with
    | error fault =>
      rw [hurl] at h
      obtain ⟨rfl, rfl, rfl⟩ := Action.runs_error_bind.1 h
      exact .unaddressed hurl
    | ok url =>
      rw [hurl] at h
      exact .called hurl (runs_call.1 (Action.runs_ok_bind.1 h))
  · rintro (address | ⟨address, reads⟩)
    · rw [address]
      exact Action.runs_error_bind.2 ⟨rfl, rfl, rfl⟩
    · rw [address]
      exact Action.runs_ok_bind.2 (runs_call.2 reads)

theorem runs_getTyped {mediaType : String} {x : Result (Response α)} :
    (getTyped s item href mediaType).Runs st history x st' ↔
      CallsOnce s item href (some mediaType) st history x st' := runs_getAs

theorem CallsOnce.readsAt {x : Result (Response α)} (address : parseUrl href = .ok url)
    (h : CallsOnce s item href mediaType st history x st') :
    ReadsAt s item mediaType url st history x st' := by
  cases h with
  | unaddressed none => cases none.symm.trans address
  | called other reads =>
    obtain rfl := Except.ok.inj (address.symm.trans other)
    exact reads

/-- A call that can be put together and whose requests succeed makes one of them. -/
theorem ReadsAt.of_success {x : Result (Response α)}
    (h : ReadsAt s item mediaType url st history x st')
    (hfit : ((readingPlan mediaType url).attempt none st).IsFit s)
    (hsuccess : ∀ e ∈ history, e.outcome.result.isOk = true) : ∃ e reply,
      history = [e] ∧ e.Gets url ∧ e.outcome.result = .ok reply ∧ x = readAs item (reply, 1) ∧
        st' = st := by
  obtain ⟨rounds, y, rfl, hrounds, rfl⟩ := h
  have hfailed {e : Exchange} {f : Failure} (he : e ∈ rounds.flatMap Round.exchanges)
      (outcome : e.outcome.result = .error f) : False := by
    have hok := hsuccess e he
    rw [outcome] at hok
    cases hok
  cases hrounds with
  | unfit number fault =>
    obtain ⟨request, hrequest⟩ := hfit _ _ number
    cases fault.symm.trans hrequest
  | answered sent outcome => exact ⟨_, _, rfl, sent.gets, outcome, rfl, rfl⟩
  | failed sent outcome => exact (hfailed List.mem_cons_self outcome).elim
  | renewalFailed sent outcome => exact (hfailed List.mem_cons_self outcome).elim
  | again sent outcome => exact (hfailed List.mem_cons_self outcome).elim

end CloudDirector
