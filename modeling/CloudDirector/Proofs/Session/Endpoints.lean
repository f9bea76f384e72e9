import CloudDirector.Session.Endpoint
import Mathlib.Data.List.Count
import Mathlib.Data.List.Perm.Basic

/-!
# What a session advertises

A session resource is read into a session just if nothing in it that counts is in doubt: its own
address and the links to entry points, of which each may have one. How the links are arranged, and
what other links there are, makes no difference to the session or to the error.
-/
namespace CloudDirector

/-- A link leads to an entry point by its relation and its media type. -/
def Link.LeadsTo (l : Link) (e : Endpoint) : Prop := l.rel = e.rel ∧ l.mediaType = some e.mediaType

instance (e : Endpoint) : DecidablePred (Link.LeadsTo · e) := fun _ => instDecidableAnd

theorem Endpoint.mem_all (e : Endpoint) : e ∈ all := by cases e <;> decide

instance : DecidablePred fun l : Link => ∃ e, l.LeadsTo e := fun l =>
  decidable_of_iff (∃ e ∈ Endpoint.all, l.LeadsTo e)
    ⟨fun ⟨e, _, h⟩ => ⟨e, h⟩, fun ⟨e, h⟩ => ⟨e, e.mem_all, h⟩⟩

namespace Result

variable {α β : Type} {f : α → Result β}

theorem mapM_eq_ok {g : α → β} {xs : List α} (h : ∀ x ∈ xs, f x = .ok (g x)) :
    xs.mapM f = .ok (xs.map g) := by
  induction xs with
  | nil => rfl
  | cons x xs ih =>
    rw [List.forall_mem_cons] at h
    simp [List.mapM_cons, h.1, ih h.2]

theorem exists_of_mapM_eq_ok {xs : List α} {ys : List β} (h : xs.mapM f = .ok ys) :
    ∀ x ∈ xs, ∃ y, f x = .ok y := by
  induction xs generalizing ys with
  | nil => simp
  | cons x xs ih =>
    rw [List.mapM_cons, Result.bind_eq_ok] at h
    obtain ⟨y, hy, h⟩ := h
    obtain ⟨rest, hrest, -⟩ := Result.bind_eq_ok.1 h
    rw [List.forall_mem_cons]
    exact ⟨⟨y, hy⟩, ih hrest⟩

theorem mapM_congr {g : α → Result β} {xs : List α} (h : ∀ x, f x = g x) :
    xs.mapM f = xs.mapM g := by rw [funext h]

end Result

/-- Which link is found does not depend on the order of the links. -/
theorem findLink_congr {α : Type} [Linked α] {resource resource' : α} {rel : String}
    {mediaType : Option String} (hhref : Linked.hrefText resource = Linked.hrefText resource')
    (hlinks : (matchingLinks resource rel mediaType).Perm (matchingLinks resource' rel mediaType)) :
    findLink resource rel mediaType = findLink resource' rel mediaType := by
  unfold findLink wantedLink
  rw [hhref]
  generalize matchingLinks resource rel mediaType = links at hlinks ⊢
  generalize matchingLinks resource' rel mediaType = links' at hlinks ⊢
  rcases links with _ | ⟨l, _ | ⟨l', more⟩⟩
  · rw [hlinks.nil_eq]
  · rw [hlinks.singleton_eq]
  · have hlength := hlinks.length_eq
    rcases links' with _ | ⟨m, _ | ⟨m', more'⟩⟩
    · simp at hlength
    · simp at hlength
    · rfl

/-- Where an entry point is found among links, if it is: at the only one that leads there. -/
inductive Endpoint.FoundIn (e : Endpoint) (links : List Link) : Option Url → Prop
  | absent (unlinked : ∀ l ∈ links, ¬l.LeadsTo e) : FoundIn e links none
  | only {l : Link} {url : Url} (single : links.filter (·.LeadsTo e) = [l])
    (valid : parseUrl l.href = .ok url) : FoundIn e links (some url)

namespace Endpoint

variable {e : Endpoint} {links : List Link} {found : Option Url}

theorem FoundIn.of_leads {l : Link} (h : e.FoundIn links found) (hl : l ∈ links)
    (hleads : l.LeadsTo e) : ∃ url, parseUrl l.href = .ok url ∧ found = some url := by
  cases h with
  | absent unlinked => exact absurd hleads (unlinked l hl)
  | only single valid =>
    have hmem : l ∈ links.filter (·.LeadsTo e) := by simp [hl, hleads]
    rw [single, List.mem_singleton] at hmem
    exact ⟨_, hmem ▸ valid, rfl⟩

theorem FoundIn.of_unlinked (h : e.FoundIn links found) (hlinks : ∀ l ∈ links, ¬l.LeadsTo e) :
    found = none := by
  cases h with
  | absent => rfl
  | @only l _ single =>
    have hmem : l ∈ links.filter (·.LeadsTo e) := by simp [single]
    obtain ⟨hl, hleads⟩ := List.mem_filter.1 hmem
    exact absurd (of_decide_eq_true hleads) (hlinks l hl)

theorem FoundIn.countP_le (h : e.FoundIn links found) : links.countP (·.LeadsTo e) ≤ 1 := by
  rw [List.countP_eq_length_filter]
  cases h with
  | absent unlinked =>
    have hlinks : links.filter (·.LeadsTo e) = [] := by simpa using unlinked
    simp [hlinks]
  | only single => simp [single]

theorem exists_foundIn_iff : (∃ found, e.FoundIn links found) ↔
    links.countP (·.LeadsTo e) ≤ 1 ∧
      ∀ l ∈ links, l.LeadsTo e → ∃ url, parseUrl l.href = .ok url := by
  constructor
  · rintro ⟨found, h⟩
    refine ⟨h.countP_le, fun l hl hleads => ?_⟩
    obtain ⟨url, hurl, -⟩ := h.of_leads hl hleads
    exact ⟨url, hurl⟩
  · rintro ⟨hcount, hvalid⟩
    rw [List.countP_eq_length_filter] at hcount
    rcases hlinks : links.filter (·.LeadsTo e) with _ | ⟨l, _ | ⟨l', more⟩⟩
    · exact ⟨none, .absent (by simpa using hlinks)⟩
    · have hmem : l ∈ links.filter (·.LeadsTo e) := by simp [hlinks]
      obtain ⟨hl, hleads⟩ := List.mem_filter.1 hmem
      obtain ⟨url, hurl⟩ := hvalid l hl (of_decide_eq_true hleads)
      exact ⟨some url, .only hlinks hurl⟩
    · simp [hlinks] at hcount

end Endpoint

namespace Session

variable {r : SessionResource} {fallback href : Url} {session : Session} {e : Endpoint}

theorem matchingLinks_eq :
    matchingLinks r e.rel (some e.mediaType) = r.link.filter (·.LeadsTo e) := by
  apply List.filter_congr
  intro l _
  rw [Bool.eq_iff_iff, decide_eq_true_eq]
  simp [Link.LeadsTo]

theorem advertised_eq_ok {x : Option (Endpoint × Url)} :
    advertised r e = .ok x ↔ ∃ found, e.FoundIn r.link found ∧ x = found.map (e, ·) := by
  unfold advertised findLink
  rw [matchingLinks_eq, Result.bind_eq_ok]
  constructor
  · rintro ⟨link?, hfind, hx⟩
    rcases hlinks : r.link.filter (·.LeadsTo e) with _ | ⟨l, _ | ⟨l', more⟩⟩ <;>
      rw [hlinks] at hfind
    · cases hfind
      cases hx
      exact ⟨none, .absent (by simpa using hlinks), rfl⟩
    · cases hfind
      obtain ⟨url, hurl, hx⟩ := Result.bind_eq_ok.1 hx
      cases hx
      exact ⟨some url, .only hlinks hurl, rfl⟩
    · cases hfind
  · rintro ⟨_, unlinked | ⟨single, valid⟩, rfl⟩
    · have hlinks : r.link.filter (·.LeadsTo e) = [] := by simpa using unlinked
      exact ⟨none, by rw [hlinks], rfl⟩
    · exact ⟨some _, by rw [single], by simp [valid]⟩

/-- The entry points that are found, in the order of all entry points. -/
def listed (found : Endpoint → Option Url) : List (Endpoint × Url) :=
  Endpoint.all.filterMap fun e => (found e).map (e, ·)

theorem lookup_listed (found : Endpoint → Option Url) (e : Endpoint) :
    (listed found).lookup e = found e := by
  have hlookup (es : List Endpoint) : (es.filterMap fun e => (found e).map (e, ·)).lookup e =
      if e ∈ es then found e else none := by
    induction es with
    | nil => rfl
    | cons e' es ih =>
      cases hfound : found e' with
      | none =>
        by_cases heq : e = e'
        · subst heq
          simp [hfound, ih]
        · simp [hfound, ih, heq]
      | some url =>
        by_cases heq : e = e'
        · subst heq
          simp [hfound]
        · simp [hfound, ih, heq, List.lookup_cons, beq_false_of_ne heq]
  rw [listed, hlookup, if_pos e.mem_all]

/-- The address of a session resource, or the one that stands in for it. -/
def address (r : SessionResource) (fallback : Url) : Result Url :=
  match r.href with
  | some href => parseUrl href
  | none => .ok fallback

theorem exists_address_iff (r : SessionResource) (fallback : Url) :
    (∃ href, address r fallback = .ok href) ↔
      ∀ href, r.href = some href → ∃ url, parseUrl href = .ok url := by
  unfold address
  cases r.href <;> simp

theorem ofResource_eq_ok : ofResource r fallback = .ok session ↔
    ∃ href found, address r fallback = .ok href ∧ (∀ e : Endpoint, e.FoundIn r.link (found e)) ∧
      session = ⟨href, r.org, r.user, listed found⟩ := by
  have hresource : ofResource r fallback = address r fallback >>= fun href =>
      Endpoint.all.mapM (advertised r) >>= fun endpoints =>
        .ok ⟨href, r.org, r.user, endpoints.filterMap id⟩ := by
    unfold ofResource address
    cases r.href <;> rfl
  rw [hresource, Result.bind_eq_ok]
  constructor
  · rintro ⟨href, hhref, h⟩
    obtain ⟨endpoints, hendpoints, h⟩ := Result.bind_eq_ok.1 h
    cases h
    have hall (e : Endpoint) : ∃ found, e.FoundIn r.link found := by
      obtain ⟨x, hx⟩ := Result.exists_of_mapM_eq_ok hendpoints e e.mem_all
      obtain ⟨found, hfound, -⟩ := advertised_eq_ok.1 hx
      exact ⟨found, hfound⟩
    choose found hfound using hall
    have hmap := Result.mapM_eq_ok fun e (_ : e ∈ Endpoint.all) =>
      advertised_eq_ok.2 ⟨found e, hfound e, rfl⟩
    rw [hmap] at hendpoints
    cases hendpoints
    refine ⟨href, found, hhref, hfound, ?_⟩
    rw [listed, List.filterMap_map]
    rfl
  · rintro ⟨href, found, hhref, hfound, rfl⟩
    refine ⟨href, hhref, ?_⟩
    rw [Result.mapM_eq_ok fun e _ => advertised_eq_ok.2 ⟨found e, hfound e, rfl⟩]
    simp [listed, List.filterMap_map]

/-- Only the links that lead to entry points count, in any order. -/
theorem ofResource_congr {links : List Link} (h : (links.filter fun l => ∃ e, l.LeadsTo e).Perm
    (r.link.filter fun l => ∃ e, l.LeadsTo e)) :
    ofResource { r with link := links } fallback = ofResource r fallback := by
  have hleading (e : Endpoint) (ls : List Link) :
      (ls.filter fun l => ∃ e, l.LeadsTo e).filter (·.LeadsTo e) = ls.filter (·.LeadsTo e) := by
    rw [List.filter_filter]
    apply List.filter_congr
    intro l _
    by_cases hl : l.LeadsTo e
    · have hsome : ∃ e, l.LeadsTo e := ⟨e, hl⟩
      simp [hl, hsome]
    · simp [hl]
  have hadvertised (e : Endpoint) :
      advertised { r with link := links } e = advertised r e := by
    have hperm := h.filter (·.LeadsTo e)
    rw [hleading, hleading] at hperm
    have hfind : findLink { r with link := links } e.rel (some e.mediaType) =
        findLink r e.rel (some e.mediaType) := by
      refine findLink_congr rfl ?_
      rw [matchingLinks_eq, matchingLinks_eq]
      exact hperm
    rw [advertised, hfind, advertised]
  unfold ofResource
  rw [Result.mapM_congr hadvertised]

/-- A session resource is read into a session just if its address is valid, no entry point has two
links and the link of each is valid. The session then knows the entry points that have a link, and
tells of any other what is missing. Only the links to entry points count, in any order. -/
theorem ofResource_describes (r : SessionResource) (fallback : Url) :
    ((∃ session, ofResource r fallback = .ok session) ↔
      (∀ href, r.href = some href → ∃ url, parseUrl href = .ok url) ∧
      (∀ e : Endpoint, r.link.countP (·.LeadsTo e) ≤ 1) ∧
      ∀ e : Endpoint, ∀ l ∈ r.link, l.LeadsTo e → ∃ url, parseUrl l.href = .ok url) ∧
    (∀ session, ofResource r fallback = .ok session →
      (∀ href, r.href = some href → parseUrl href = .ok session.href) ∧
      (r.href = none → session.href = fallback) ∧ session.org = r.org ∧ session.user = r.user ∧
      ∀ e : Endpoint,
        (∀ l ∈ r.link, l.LeadsTo e → ∃ url, parseUrl l.href = .ok url ∧
          session.endpoint? e = some url ∧ session.require e = .ok url) ∧
        ((∀ l ∈ r.link, ¬l.LeadsTo e) → session.endpoint? e = none ∧
          session.require e =
            .error (.missingLink ⟨session.href.text, e.rel, some e.mediaType⟩))) ∧
    ∀ links : List Link, (links.filter fun l => ∃ e, l.LeadsTo e).Perm
        (r.link.filter fun l => ∃ e, l.LeadsTo e) →
      ofResource { r with link := links } fallback = ofResource r fallback := by
  refine ⟨?_, ?_, fun links h => ofResource_congr h⟩
  · rw [← exists_address_iff r fallback]
    simp only [ofResource_eq_ok]
    constructor
    · rintro ⟨_, href, found, hhref, hfound, rfl⟩
      have hlinks (e : Endpoint) := Endpoint.exists_foundIn_iff.1 ⟨found e, hfound e⟩
      exact ⟨⟨href, hhref⟩, fun e => (hlinks e).1, fun e => (hlinks e).2⟩
    · rintro ⟨⟨href, hhref⟩, hcount, hvalid⟩
      choose found hfound using fun e => Endpoint.exists_foundIn_iff.2 ⟨hcount e, hvalid e⟩
      exact ⟨_, href, found, hhref, hfound, rfl⟩
  · intro session h
    obtain ⟨href, found, hhref, hfound, rfl⟩ := ofResource_eq_ok.1 h
    refine ⟨?_, ?_, rfl, rfl, fun e => ?_⟩
    · intro text htext
      simpa [address, htext] using hhref
    · intro hnone
      simpa [address, hnone, eq_comm] using hhref
    · have hendpoint : endpoint? ⟨href, r.org, r.user, listed found⟩ e = found e :=
        lookup_listed found e
      unfold require
      rw [hendpoint]
      refine ⟨fun l hl hleads => ?_, fun hlinks => ?_⟩
      · obtain ⟨url, hurl, hsome⟩ := (hfound e).of_leads hl hleads
        rw [hsome]
        exact ⟨url, hurl, rfl, rfl⟩
      · rw [(hfound e).of_unlinked hlinks]
        exact ⟨rfl, rfl⟩

end Session

end CloudDirector
