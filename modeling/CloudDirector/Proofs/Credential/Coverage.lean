import CloudDirector.Proofs.Client.Renewal
import CloudDirector.Proofs.Credential.Signing
import CloudDirector.Proofs.Session.Replacement

/-!
# What a multisite signature covers

Credentials that act on behalf of another site sign a request when all of its headers are in place,
and set only the signature and the date that they signed. So whatever the client, the plan or the
login header put there before, the signature is that of the request as it is sent. Each attempt at a
request is signed by itself.
-/
namespace CloudDirector
open Http Signature Time

namespace Credentials

end Credentials

/-- The first value of a header, or nothing. -/
def Http.Request.valueOf (r : Request) (name : String) : String := (r.headers.get? name).getD ""

/-- The parts of a request that a signature has to cover, as they stand in it. -/
def Http.Request.parts (r : Request) : SignedParts :=
  ⟨r.valueOf Name.date, r.method.token, r.url.pathText, r.valueOf Name.contentType⟩

namespace MultisiteLogin

/-- A request bears one date, that of an instant, and as its only authorization the signature of its
own parts. -/
structure Signs (m : MultisiteLogin) (now : Instant) (r : Request) : Prop where
  date : r.headers.getAll Name.date = [now.httpDate]
  authorization : ∃ signature, m.key.sign (r.parts.text m.form) = .ok signature ∧
    r.headers.getAll Name.authorization = [m.headerWith signature]

variable {m : MultisiteLogin} {now : Instant} {r signed : Request}

end MultisiteLogin

theorem Http.Headers.getAll_setIfAbsent (h : Headers) (n v m : String) :
    (h.setIfAbsent n v).getAll m = if n = m ∧ h.getAll m = [] then [v] else h.getAll m := by
  have hcontains : h.contains n = true ↔ h.getAll n ≠ [] := by
    simp [Headers.contains, Headers.get?]
  unfold Headers.setIfAbsent
  by_cases hn : n = m
  · subst hn
    by_cases hempty : h.getAll n = [] <;> simp [hcontains, hempty, Headers.getAll_set]
  · split <;> simp [hn, Headers.getAll_set]

/-- A request keeps its method, its path and the headers that it has on its way. -/
theorem Http.Request.of_onWire {r wire : Request} {agent : String} (h : r.onWire? agent = some wire) :
    wire.method = r.method ∧ wire.url.pathText = r.url.pathText ∧
      ∀ name ≠ Name.userAgent, (name = Name.authorization → r.headers.getAll name ≠ []) →
        wire.headers.getAll name = r.headers.getAll name := by
  unfold Request.onWire? at h
  split at h
  case isFalse => cases h
  case isTrue =>
    cases h
    refine ⟨rfl, rfl, fun name hagent hauth => ?_⟩
    have hkept (user : String) : (r.headers.setIfAbsent Name.authorization user).getAll name =
        r.headers.getAll name := by
      rw [Headers.getAll_setIfAbsent, if_neg]
      rintro ⟨hname, hempty⟩
      exact hauth hname.symm hempty
    dsimp only
    rw [Headers.getAll_setIfAbsent, if_neg (fun hboth => hagent hboth.1.symm)]
    cases r.url.authority with
    | none => rfl
    | some a =>
      dsimp only
      split
      · exact hkept _
      · rfl

namespace MultisiteLogin

variable {m : MultisiteLogin} {now : Instant} {r : Request}

theorem Signs.of_onWire {wire : Request} {agent : String} (h : m.Signs now r)
    (hwire : r.onWire? agent = some wire) : m.Signs now wire := by
  obtain ⟨hmethod, hpath, hheaders⟩ := Request.of_onWire hwire
  obtain ⟨signature, hsign, hauthorization⟩ := h.authorization
  have hdate : wire.headers.getAll Name.date = r.headers.getAll Name.date :=
    hheaders _ (by decide) (fun hname => absurd hname (by decide))
  have htype : wire.headers.getAll Name.contentType = r.headers.getAll Name.contentType :=
    hheaders _ (by decide) (fun hname => absurd hname (by decide))
  have hsame : wire.headers.getAll Name.authorization = r.headers.getAll Name.authorization :=
    hheaders _ (by decide) (fun _ => by simp [hauthorization])
  have hparts : wire.parts = r.parts := by
    unfold Request.parts Request.valueOf Headers.get?
    rw [hmethod, hpath, hdate, htype]
  exact ⟨hdate.trans h.date, signature, by rw [hparts, hsign], hsame.trans hauthorization⟩

end MultisiteLogin

variable {s : Settings} {c : Credentials} {m : MultisiteLogin} {id : String} {now : Instant}
  {r : Request}

/-- What a transaction exchanges is its request. -/
theorem Transaction.Runs.request {x : Transaction} {ids : RequestIds} {st st' : AuthState}
    {history : List Exchange} {result : Result Unit} (h : x.Runs ids st history result st') :
    ∀ e ∈ history, ∃ id now later, ids.Gives id ∧ x.request id now later = .ok e.request := by
  obtain ⟨id, now, later, hid, ⟨_, -, rfl, -⟩ | ⟨request, o, hrequest, rfl, -⟩⟩ := h
  · exact List.forall_mem_nil _
  · intro e he
    obtain rfl := List.mem_singleton.1 he
    exact ⟨id, now, later, hid, hrequest⟩

namespace LoginWay

end LoginWay

end CloudDirector
