import CloudDirector.Proofs.Client.Reading
import CloudDirector.Session.Resources

/-!
# Stale references

A reference is resolved by three calls at most. The first one is at its address. Only if there is
no answer fit to return, and authentication is not what is missing, the entity resolver is called
with the identifier, and then the only alternate link of the entity that it knows. An error at the
address is told in place of any that comes later.
-/
namespace CloudDirector
open Http Json

variable {α : Type} {s : Settings} {item : Decoder α} {st st' : AuthState}
  {history : List Exchange}

def resolverAddress (st : AuthState) (id : String) : Result Url := do
  let session ← st.requireSession
  let base ← session.require .entityResolver
  parseUrl (textWithoutSlash base ++ "/" ++ id)

/-- The entity resolver is called for an identifier, once if the session tells where it is. -/
inductive CallsResolver (s : Settings) (id : String) (st : AuthState) :
    List Exchange → Result (Response Entity) → AuthState → Prop
  | unaddressed {e : Error} (address : resolverAddress st id = .error e) :
    CallsResolver s id st [] (.error e) st
  | called {url : Url} {history : List Exchange} {x : Result (Response Entity)} {st' : AuthState}
    (address : resolverAddress st id = .ok url)
    (call : CallsOnce s Entity.ofDocument url.text (some Media.entity) st history x st') :
    CallsResolver s id st history x st'

theorem runs_resolveEntity {id : String} {x : Result (Response Entity)} :
    (resolveEntity s id).Runs st history x st' ↔ CallsResolver s id st history x st' := by
  have heq : (resolveEntity s id).Runs st history x st' ↔
      (liftM (resolverAddress st id) >>= fun url : Url =>
        getTyped s Entity.ofDocument url.text Media.entity).Runs st history x st' := by
    unfold resolveEntity endpointUrl currentSession resolverAddress
    simp only [bind_assoc, Action.runs_getState_bind, Action.runs_result_bind_bind]
  rw [heq]
  constructor
  · intro h
    cases haddress : resolverAddress st id with
    | error e =>
      rw [haddress] at h
      obtain ⟨rfl, rfl, rfl⟩ := Action.runs_error_bind.1 h
      exact .unaddressed haddress
    | ok url =>
      rw [haddress] at h
      exact .called haddress (runs_getAs.1 (Action.runs_ok_bind.1 h))
  · rintro (⟨address⟩ | ⟨address, call⟩)
    · rw [address]
      exact Action.runs_error_bind.2 ⟨rfl, rfl, rfl⟩
    · rw [address]
      exact Action.runs_ok_bind.2 (runs_getAs.2 call)

/-- The target of an identifier is read by a call of the entity resolver, and by one of the only
alternate link of a media type on the entity that it knows. -/
inductive ByIdentifier (s : Settings) (item : Decoder α) (mediaType : Option String) (id : String)
    (st : AuthState) : List Exchange → Result (Response α) → AuthState → Prop
  | unresolved {history : List Exchange} {e : Error} {st' : AuthState}
    (resolver : CallsResolver s id st history (.error e) st') :
    ByIdentifier s item mediaType id st history (.error e) st'
  | unlinked {history : List Exchange} {entity : Response Entity} {st' : AuthState}
    (resolver : CallsResolver s id st history (.ok entity) st')
    (missing : matchingLinks entity.data "alternate" mediaType = []) :
    ByIdentifier s item mediaType id st history
      (.error (.missingLink (wantedLink entity.data "alternate" mediaType))) st'
  | unclear {history : List Exchange} {entity : Response Entity} {st' : AuthState} {l l' : Link}
    {more : List Link} (resolver : CallsResolver s id st history (.ok entity) st')
    (many : matchingLinks entity.data "alternate" mediaType = l :: l' :: more) :
    ByIdentifier s item mediaType id st history
      (.error (.multipleLinks (wantedLink entity.data "alternate" mediaType))) st'
  | followed {before after : List Exchange} {entity : Response Entity} {l : Link}
    {x : Result (Response α)} {t st' : AuthState}
    (resolver : CallsResolver s id st before (.ok entity) t)
    (only : matchingLinks entity.data "alternate" mediaType = [l])
    (call : CallsOnce s item l.href mediaType t after x st') :
    ByIdentifier s item mediaType id st (before ++ after) x st'

theorem requireLink_eq {ρ : Type} [Linked ρ] (resource : ρ) (rel : String)
    (mediaType : Option String) : requireLink resource rel mediaType =
      match matchingLinks resource rel mediaType with
      | [] => .error (.missingLink (wantedLink resource rel mediaType))
      | [l] => .ok l
      | _ => .error (.multipleLinks (wantedLink resource rel mediaType)) := by
  unfold requireLink findLink
  rcases matchingLinks resource rel mediaType with _ | ⟨l, _ | ⟨l', more⟩⟩ <;> rfl

theorem runs_readResolved {id : String} {mediaType : Option String} {x : Result (Response α)} :
    (readResolved s item id mediaType).Runs st history x st' ↔
      ByIdentifier s item mediaType id st history x st' := by
  unfold readResolved
  rw [Action.runs_bind]
  simp only [runs_resolveEntity, Action.runs_result_bind, requireLink_eq]
  constructor
  · rintro (⟨e, hresolver, rfl⟩ | ⟨before, entity, t, after, hresolver, hrest, rfl⟩)
    · exact .unresolved hresolver
    · rcases hlinks : matchingLinks entity.data "alternate" mediaType with
        _ | ⟨l, _ | ⟨l', more⟩⟩ <;> rw [hlinks] at hrest
      · obtain ⟨rfl, rfl, rfl⟩ := hrest
        rw [List.append_nil]
        exact .unlinked hresolver hlinks
      · exact .followed hresolver hlinks (runs_getAs.1 hrest)
      · obtain ⟨rfl, rfl, rfl⟩ := hrest
        rw [List.append_nil]
        exact .unclear hresolver hlinks
  · intro h
    cases h with
    | unresolved resolver => exact .inl ⟨_, resolver, rfl⟩
    | unlinked resolver missing =>
      refine .inr ⟨history, _, st', [], resolver, ?_, (List.append_nil history).symm⟩
      rw [missing]
      exact ⟨rfl, rfl, rfl⟩
    | unclear resolver many =>
      refine .inr ⟨history, _, st', [], resolver, ?_, (List.append_nil history).symm⟩
      rw [many]
      exact ⟨rfl, rfl, rfl⟩
    | followed resolver only call =>
      refine .inr ⟨_, _, _, _, resolver, ?_, rfl⟩
      rw [only]
      exact runs_getAs.2 call

namespace Reference

variable [Linked α] {idOf : α → Option String} {r : Reference}

/-- What one call at the address of a reference gives: an answer that is fit to return, if it has
the identifier of the reference or that has none; else nothing, or the error. Only the error that
authentication is missing counts for good. -/
inductive AtHref (s : Settings) (item : Decoder α) (idOf : α → Option String) (r : Reference)
    (st : AuthState) : List Exchange → Result (HrefAnswer α) → AuthState → Prop
  | absent (unset : r.href = "") : AtHref s item idOf r st [] (.ok (.unfit none)) st
  | answered {history : List Exchange} {response : Response α} {st' : AuthState} (set : r.href ≠ "")
    (call : CallsOnce s item r.href none st history (.ok response) st')
    (fits : r.id = none ∨ idOf response.data = r.id) :
    AtHref s item idOf r st history (.ok (.answered response)) st'
  | differs {history : List Exchange} {response : Response α} {st' : AuthState} (set : r.href ≠ "")
    (call : CallsOnce s item r.href none st history (.ok response) st')
    (named : r.id ≠ none) (other : idOf response.data ≠ r.id) :
    AtHref s item idOf r st history (.ok (.unfit none)) st'
  | unauthorized {history : List Exchange} {e : Error} {st' : AuthState} (set : r.href ≠ "")
    (call : CallsOnce s item r.href none st history (.error e) st')
    (status : e.status? = some .unauthorized) : AtHref s item idOf r st history (.error e) st'
  | failed {history : List Exchange} {e : Error} {st' : AuthState} (set : r.href ≠ "")
    (call : CallsOnce s item r.href none st history (.error e) st')
    (status : e.status? ≠ some .unauthorized) :
    AtHref s item idOf r st history (.ok (.unfit (some e))) st'

def judge (idOf : α → Option String) (r : Reference) :
    Result (Response α) → Result (HrefAnswer α)
  | .ok response =>
    .ok (if r.id = none ∨ idOf response.data = r.id then .answered response else .unfit none)
  | .error e => if e.status? = some .unauthorized then .error e else .ok (.unfit (some e))

theorem askHref_eq (hset : r.href ≠ "") : askHref s item idOf r =
    Action.attempt (get s item r.href) >>= fun x => liftM (r.judge idOf x) := by
  unfold askHref
  rw [if_neg hset]
  congr 1
  funext x
  cases x with
  | ok response =>
    unfold judge
    dsimp only
    split <;> rfl
  | error e =>
    unfold judge
    dsimp only
    split <;> rfl

theorem runs_askHref {x : Result (HrefAnswer α)} :
    (askHref s item idOf r).Runs st history x st' ↔ AtHref s item idOf r st history x st' := by
  by_cases hset : r.href = ""
  · unfold askHref
    rw [if_pos hset]
    constructor
    · intro h
      obtain ⟨rfl, rfl, rfl⟩ := Action.runs_pure.1 h
      exact .absent hset
    · intro h
      cases h with
      | absent => exact Action.runs_pure.2 ⟨rfl, rfl, rfl⟩
      | _ set => exact absurd hset set
  rw [askHref_eq hset, Action.runs_attempt_bind_result]
  constructor
  · rintro ⟨answer, hcall, rfl⟩
    have hcalled := runs_getAs.1 hcall
    cases answer with
    | ok response =>
      by_cases hfits : r.id = none ∨ idOf response.data = r.id
      · simpa only [judge, if_pos hfits] using AtHref.answered hset hcalled hfits
      · obtain ⟨hnamed, hother⟩ := not_or.1 hfits
        simpa only [judge, if_neg hfits] using AtHref.differs hset hcalled hnamed hother
    | error e =>
      by_cases hstatus : e.status? = some .unauthorized
      · simpa only [judge, if_pos hstatus] using AtHref.unauthorized hset hcalled hstatus
      · simpa only [judge, if_neg hstatus] using AtHref.failed hset hcalled hstatus
  · intro h
    cases h with
    | absent unset => exact absurd unset hset
    | answered _ call fits => exact ⟨_, runs_getAs.2 call, by simp only [judge, if_pos fits]⟩
    | differs _ call named other =>
      exact ⟨_, runs_getAs.2 call, by simp only [judge, if_neg (not_or.2 ⟨named, other⟩)]⟩
    | unauthorized _ call status => exact ⟨_, runs_getAs.2 call, by simp only [judge, if_pos status]⟩
    | failed _ call status => exact ⟨_, runs_getAs.2 call, by simp only [judge, if_neg status]⟩

/-- How a reference is resolved. A target that is found by its identifier comes with its address, if
it has one, to which the reference has to be changed. -/
inductive Resolves (s : Settings) (item : Decoder α) (idOf : α → Option String) (r : Reference)
    (st : AuthState) : List Exchange → Result (Response α × Option String) → AuthState → Prop
  | answered {history : List Exchange} {response : Response α} {st' : AuthState}
    (first : AtHref s item idOf r st history (.ok (.answered response)) st') :
    Resolves s item idOf r st history (.ok (response, none)) st'
  | unauthorized {history : List Exchange} {e : Error} {st' : AuthState}
    (first : AtHref s item idOf r st history (.error e) st') :
    Resolves s item idOf r st history (.error e) st'
  | unnamed {history : List Exchange} {fault? : Option Error} {st' : AuthState}
    (first : AtHref s item idOf r st history (.ok (.unfit fault?)) st') (unnamed : r.id = none) :
    Resolves s item idOf r st history
      (.error (fault?.getD (.configuration (.other "Reference has neither href nor id")))) st'
  | found {before after : List Exchange} {fault? : Option Error} {id : String}
    {response : Response α} {t st' : AuthState}
    (first : AtHref s item idOf r st before (.ok (.unfit fault?)) t) (named : r.id = some id)
    (second : ByIdentifier s item r.mediaType id t after (.ok response) st') :
    Resolves s item idOf r st (before ++ after) (.ok (response, Linked.href response.data)) st'
  | lost {before after : List Exchange} {fault? : Option Error} {id : String} {e : Error}
    {t st' : AuthState} (first : AtHref s item idOf r st before (.ok (.unfit fault?)) t)
    (named : r.id = some id) (second : ByIdentifier s item r.mediaType id t after (.error e) st') :
    Resolves s item idOf r st (before ++ after) (.error (fault?.getD e)) st'

theorem runs_resolveReference {x : Result (Response α × Option String)} :
    (resolveReference s item idOf r).Runs st history x st' ↔
      Resolves s item idOf r st history x st' := by
  unfold resolveReference
  rw [Action.runs_bind]
  simp only [runs_askHref]
  constructor
  · rintro (⟨e, hfirst, rfl⟩ | ⟨before, answer, t, after, hfirst, hrest, rfl⟩)
    · exact .unauthorized hfirst
    · cases answer with
      | answered response =>
        obtain ⟨rfl, rfl, rfl⟩ := Action.runs_pure.1 hrest
        rw [List.append_nil]
        exact .answered hfirst
      | unfit fault? =>
        dsimp only at hrest
        cases hid : r.id with
        | none =>
          rw [hid] at hrest
          obtain ⟨rfl, rfl, rfl⟩ := Action.runs_throw.1 hrest
          rw [List.append_nil]
          exact .unnamed hfirst hid
        | some id =>
          rw [hid] at hrest
          obtain ⟨second, target, u, rest, htarget, hend, rfl⟩ := Action.runs_attempt_bind.1 hrest
          have htarget := runs_readResolved.1 htarget
          cases target with
          | ok response =>
            obtain ⟨rfl, rfl, rfl⟩ := Action.runs_pure.1 hend
            rw [List.append_nil]
            exact .found hfirst hid htarget
          | error e =>
            obtain ⟨rfl, rfl, rfl⟩ := Action.runs_throw.1 hend
            rw [List.append_nil]
            exact .lost hfirst hid htarget
  · intro h
    cases h with
    | answered first =>
      refine .inr ⟨history, _, st', [], first, ?_, (List.append_nil history).symm⟩
      exact Action.runs_pure.2 ⟨rfl, rfl, rfl⟩
    | unauthorized first => exact .inl ⟨_, first, rfl⟩
    | unnamed first unnamed =>
      refine .inr ⟨history, _, st', [], first, ?_, (List.append_nil history).symm⟩
      dsimp only
      rw [unnamed]
      exact Action.runs_throw.2 ⟨rfl, rfl, rfl⟩
    | found first named second =>
      refine .inr ⟨_, _, _, _, first, ?_, rfl⟩
      dsimp only
      rw [named]
      refine Action.runs_attempt_bind.2 ⟨_, _, st', [], runs_readResolved.2 second, ?_,
        (List.append_nil _).symm⟩
      exact Action.runs_pure.2 ⟨rfl, rfl, rfl⟩
    | lost first named second =>
      refine .inr ⟨_, _, _, _, first, ?_, rfl⟩
      dsimp only
      rw [named]
      refine Action.runs_attempt_bind.2 ⟨_, _, st', [], runs_readResolved.2 second, ?_,
        (List.append_nil _).symm⟩
      exact Action.runs_throw.2 ⟨rfl, rfl, rfl⟩

/-- Whatever a server replies, a reference is resolved to an answer or an error, after calls that
are made one after the other only as far as needed. A log-in that failed in between counts with the
status of its own error. -/
theorem resolveReference_resolves (s : Settings) (item : Decoder α) (idOf : α → Option String)
    (r : Reference) (st : AuthState) :
    (∀ server, ∃ history x st', (resolveReference s item idOf r).Runs st history x st' ∧
      AnsweredBy server history) ∧
    (∀ e : Error, (Error.reloginFailed e).status? = e.status?) ∧
    ∀ history x st', (resolveReference s item idOf r).Runs st history x st' ↔
      r.Resolves s item idOf st history x st' :=
  ⟨Action.exists_runs _ st, fun _ => rfl, fun _ _ _ => runs_resolveReference⟩

/-- The target of a stale reference has moved; it is found by its identifier and told where to. -/
example :
    let site (path : List String) : Url :=
      ⟨"http".toList, some ⟨[], none, "vcd".toList, none⟩, .segments (path.map String.toList), none,
        none⟩
    let s : Settings := { Settings.ofEndpoint (site ["api", ""]) with requestIds := .off }
    let session : Session :=
      ⟨site ["api", "session"], none, none, [(.entityResolver, site ["api", "entity"])]⟩
    let moved : Value := .string "http://vcd/api/vm/2"
    let link : Value := .ofFields [("rel", some (.string "alternate")), ("href", some moved)]
    let entity : Value := .ofFields [("link", some (.array [link]))]
    let vm : Value := .ofFields [("href", some moved)]
    let w : World := ⟨{ AuthState.empty with session := some session }, none, fun _ => 0, 0,
      default, .scripted [.reply ⟨⟨404⟩, .empty, ""⟩, .reply ⟨.ok, .empty, entity.text⟩,
        .reply ⟨.ok, .empty, vm.text⟩]⟩
    let r : Reference := ⟨"http://vcd/api/vm/1", some "urn:vm:1", none, none⟩
    ((resolveReference s Entity.ofDocument Entity.id r).runIn w).1.map Prod.snd =
      .ok (some "http://vcd/api/vm/2") := by decide +kernel

end Reference

end CloudDirector
