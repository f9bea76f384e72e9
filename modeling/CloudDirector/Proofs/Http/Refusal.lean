import CloudDirector.Http.Failure
import CloudDirector.Proofs.Session.Transaction

/-!
# What the server said in a refusal

A reply that is no success becomes an error with its status, the server's number of the request and
its body as they came. Its content type decides what else the error says: an error detail where one
is announced, else the body where it is a text or nothing. The detail is read when the reply comes
and told when the error is made. Both decide by the content type on their own, and they decide
alike.
-/
namespace CloudDirector
open Text Http Json

namespace Http.Reply

variable {r : Reply}

/-- A reply has a content type that can be read, and in lower case it is as `P` says. -/
def HasType (r : Reply) (P : List Char → Prop) : Prop :=
  ∃ t, r.header? Name.contentType = some t ∧ P (lower t).toList

def AnnouncesDetail (r : Reply) : Prop := r.HasType (Media.errorDetail.toList <:+: ·)

def IsText (r : Reply) : Prop :=
  r.HasType fun t => Media.plainText.toList <+: t ∨ Media.xmlText.toList <+: t

/-- The body of a reply holds nothing but white space. -/
def IsBlank (r : Reply) : Prop := ∀ c ∈ r.body.toList, isBlank c = true

def detail? (r : Reply) : Option ErrorDetail :=
  (Document.ofText? r.body).bind ErrorDetail.ofDocument

/-- A reply that is no success means an error. -/
inductive Means (r : Reply) : Error → Prop
  | detailed {detail : ErrorDetail} (announced : r.AnnouncesDetail)
    (read : r.detail? = some detail) :
    Means r (.server r.status (r.header? Name.requestId) (some detail) none r.body)
  | malformed (announced : r.AnnouncesDetail) (read : r.detail? = none) :
    Means r (.unprocessable r.status (r.header? Name.requestId) r.body "malformed error envelope")
  | worded (other : ¬ r.AnnouncesDetail) (text : r.IsText) (filled : ¬ r.IsBlank) :
    Means r (.server r.status (r.header? Name.requestId) none (some r.body) r.body)
  | bare (other : ¬ r.AnnouncesDetail) (blank : r.IsBlank)
    (status : r.IsText ∨ 400 ≤ r.status.code ∧ r.status.code < 600) :
    Means r (.server r.status (r.header? Name.requestId) none none r.body)
  | unrecognized (other : ¬ r.AnnouncesDetail) (noText : ¬ r.IsText)
    (status : r.IsBlank → ¬ (400 ≤ r.status.code ∧ r.status.code < 600)) :
    Means r (.unprocessable r.status (r.header? Name.requestId) r.body
      ("unrecognized content type '" ++ lower ((r.header? Name.contentType).getD "") ++ "'"))

end Http.Reply

theorem Text.occursIn_iff {part cs : List Char} : occursIn part cs = true ↔ part <:+: cs := by
  induction cs with
  | nil => simp [occursIn]
  | cons c cs ih =>
    rw [occursIn, Bool.or_eq_true, List.isPrefixOf_iff_prefix, ih, List.infix_cons_iff]

theorem Text.isAllBlank_iff {s : String} :
    isAllBlank s = true ↔ ∀ c ∈ s.toList, isBlank c = true := List.all_eq_true

theorem Http.Status.isFailure_iff {s : Status} :
    s.isFailure = true ↔ 400 ≤ s.code ∧ s.code < 600 := by
  simp [Status.isFailure]

namespace FailedReply

variable {r : Reply}

theorem bringsDetail_iff : bringsDetail r = true ↔ r.AnnouncesDetail := by
  unfold bringsDetail Reply.AnnouncesDetail Reply.HasType
  cases r.header? Name.contentType <;> simp [occursIn_iff]

-- A reply without a readable content type has an empty one, which announces and names nothing.

theorem announcesDetail_iff : announcesDetail r = true ↔ r.AnnouncesDetail := by
  rw [← bringsDetail_iff]
  unfold announcesDetail contentType bringsDetail
  cases r.header? Name.contentType with
  | none => exact iff_of_false (by decide) (by decide)
  | some t => rfl

theorem isText_iff : isText r = true ↔ r.IsText := by
  unfold isText contentType Reply.IsText Reply.HasType
  cases r.header? Name.contentType with
  | none => exact iff_of_false (by decide) (by simp)
  | some t => simp

/-- What is read of a reply is its error detail, if it announces one. -/
theorem detail_ofReply : (ofReply r).detail = if announcesDetail r then r.detail? else none := by
  have hagree : bringsDetail r = announcesDetail r := by
    rw [Bool.eq_iff_iff, bringsDetail_iff, announcesDetail_iff]
  unfold ofReply
  rw [hagree]
  rfl

/-- The error of a reply is the one that the reply means. -/
theorem means_toError (r : Reply) : r.Means (ofReply r).toError := by
  have hreply : (ofReply r).reply = r := rfl
  have hblank : isAllBlank r.body = true ↔ r.IsBlank := isAllBlank_iff
  unfold toError
  simp only [detail_ofReply, hreply]
  by_cases hdetail : announcesDetail r = true
  · have hannounced := announcesDetail_iff.1 hdetail
    rw [if_pos hdetail, if_pos hdetail]
    cases hread : r.detail? with
    | some detail => exact .detailed hannounced hread
    | none => exact .malformed hannounced hread
  rw [if_neg hdetail]
  have hother : ¬ r.AnnouncesDetail := mt announcesDetail_iff.2 hdetail
  by_cases hbody : isAllBlank r.body = true
  · by_cases hstatus : r.IsText ∨ 400 ≤ r.status.code ∧ r.status.code < 600
    · rw [if_pos (by simpa [hbody, isText_iff, Status.isFailure_iff] using hstatus), if_pos hbody]
      exact .bare hother (hblank.1 hbody) hstatus
    · rw [if_neg (by simpa [hbody, isText_iff, Status.isFailure_iff] using hstatus)]
      exact .unrecognized hother (fun h => hstatus (.inl h)) fun _ h => hstatus (.inr h)
  · have hfilled : ¬ r.IsBlank := mt hblank.2 hbody
    by_cases htext : r.IsText
    · rw [if_pos (by simpa [hbody, isText_iff] using htext), if_neg hbody]
      exact .worded hother htext hfilled
    · rw [if_neg (by simpa [hbody, isText_iff] using htext)]
      exact .unrecognized hother htext fun hempty => absurd hempty hfilled

end FailedReply

namespace Http.Reply

variable {r : Reply} {e e' : Error}

/-- A reply means one error only. -/
theorem Means.unique (h : r.Means e) (h' : r.Means e') : e = e' := by
  cases h <;> cases h' <;> grind

theorem Means.status? (h : r.Means e) : e.status? = some r.status := by
  cases h <;> rfl

theorem Means.requestId? (h : r.Means e) : e.requestId? = r.header? Name.requestId := by
  cases h <;> rfl

theorem Means.body? (h : r.Means e) : e.body? = some r.body := by
  cases h <;> rfl

/-- The error has the detail that is read of the reply. -/
theorem Means.detail? (h : r.Means e) : e.detail? = (FailedReply.ofReply r).detail := by
  rw [FailedReply.detail_ofReply]
  cases h with
  | detailed announced read => rw [if_pos (FailedReply.announcesDetail_iff.2 announced), read]; rfl
  | malformed announced read => rw [if_pos (FailedReply.announcesDetail_iff.2 announced), read]; rfl
  | worded other => rw [if_neg (mt FailedReply.announcesDetail_iff.1 other)]; rfl
  | bare other => rw [if_neg (mt FailedReply.announcesDetail_iff.1 other)]; rfl
  | unrecognized other => rw [if_neg (mt FailedReply.announcesDetail_iff.1 other)]; rfl

/-- A reply that is no success fails its exchange with the one error that it means. This error has
the status, the number of the request and the body of the reply, and a detail just if one was read,
which is just if the reply announces it and it can be read. -/
theorem refusal_means (hrefused : ¬ (200 ≤ r.status.code ∧ r.status.code < 300)) :
    ∃ f : FailedReply,
      (∀ s request st x, (send s request).Runs st [⟨request, .reply r⟩] x st ↔
        x = .error (.refused f)) ∧
      (∀ e, r.Means e ↔ e = (Failure.refused f).toError) ∧
      (Failure.refused f).toError.status? = some r.status ∧
      (Failure.refused f).toError.requestId? = r.header? Name.requestId ∧
      (Failure.refused f).toError.body? = some r.body ∧
      (Failure.refused f).toError.detail? = f.detail ∧
      ∀ detail, f.detail = some detail ↔ r.AnnouncesDetail ∧ r.detail? = some detail := by
  have hresult : (Outcome.reply r).result = .error (.refused (.ofReply r)) := by
    unfold Outcome.result
    exact if_neg (by simpa [Status.isSuccess] using hrefused)
  have hmeans := FailedReply.means_toError r
  refine ⟨.ofReply r, fun s request st x => ?_, fun e => ?_, hmeans.status?, hmeans.requestId?,
    hmeans.body?, hmeans.detail?, fun detail => ?_⟩
  · rw [runs_send, ← hresult]
    constructor
    · rintro ⟨o, ho, rfl, -⟩
      cases ho
      rfl
    · rintro rfl
      exact ⟨_, rfl, rfl, rfl⟩
  · constructor
    · exact fun he => he.unique hmeans
    · rintro rfl
      exact hmeans
  · rw [FailedReply.detail_ofReply, ← FailedReply.announcesDetail_iff]
    simp

/-- A denial with an error detail whose media type is written with capitals. -/
theorem refusal_means_in_capitals : ∃ (r : Reply) (f : FailedReply) (detail : ErrorDetail),
    r.header? Name.contentType = some "Application/VND.VMware.vCloud.Error+JSON;version=36.0" ∧
    detail.message = some "denied" ∧ f.detail = some detail ∧
    (Failure.refused f).toError = .server ⟨403⟩ (some "req-1") (some detail) none r.body := by
  let headers : Headers := ⟨[
    (Name.contentType, "Application/VND.VMware.vCloud.Error+JSON;version=36.0"),
    (Name.requestId, "req-1")]⟩
  let detail : ErrorDetail :=
    ⟨some "denied", 403, some "ACCESS_TO_RESOURCE_IS_FORBIDDEN", none, none⟩
  let r : Reply := ⟨⟨403⟩, headers, detail.toJson.text⟩
  have hannounced : r.AnnouncesDetail := FailedReply.bringsDetail_iff.1 (by decide +kernel)
  have hread : r.detail? = some detail := by decide +kernel
  obtain ⟨f, -, hmeans, -, -, -, -, hdetail⟩ := refusal_means (r := r) (by decide)
  exact ⟨r, f, detail, by decide +kernel, rfl, (hdetail detail).2 ⟨hannounced, hread⟩,
    ((hmeans _).1 (.detailed hannounced hread)).symm⟩

end Http.Reply

end CloudDirector
