import CloudDirector.Error
import CloudDirector.Http.Exchange
import CloudDirector.Json.Reader
import CloudDirector.Text.Blank

/-!
# Failed exchanges

An exchange fails without an answer, or with an answer that is no success. Such an answer may
carry an error detail, a plain text, or nothing that can be read.
-/
namespace CloudDirector
open Text Http Json

/-- An answer that is no success. -/
structure FailedReply where
  reply : Reply
  detail : Option ErrorDetail
  deriving DecidableEq

namespace FailedReply

/-- The content type in lower case; empty if there is none. -/
def contentType (r : Reply) : String := lower ((r.header? Name.contentType).getD "")

def announcesDetail (r : Reply) : Bool :=
  occursIn Media.errorDetail.toList (contentType r).toList

def isText (r : Reply) : Bool :=
  Media.plainText.toList.isPrefixOf (contentType r).toList ||
    Media.xmlText.toList.isPrefixOf (contentType r).toList

/-- Whether there is a content type that can be read and that, in whatever case, is one of error
details. -/
def bringsDetail (r : Reply) : Bool :=
  (r.header? Name.contentType).any fun t => occursIn Media.errorDetail.toList (lower t).toList

/-- An answer with its error detail, if it brings one that can be read. -/
def ofReply (r : Reply) : FailedReply :=
  ⟨r, if bringsDetail r then (Document.ofText? r.body).bind ErrorDetail.ofDocument else none⟩

def toError (f : FailedReply) : Error :=
  let r := f.reply
  let requestId := r.header? Name.requestId
  if announcesDetail r then
    match f.detail with
    | some detail => .server r.status requestId (some detail) none r.body
    | none => .unprocessable r.status requestId r.body "malformed error envelope"
  else if isText r || (isAllBlank r.body && r.status.isFailure) then
    .server r.status requestId none (if isAllBlank r.body then none else some r.body) r.body
  else
    .unprocessable r.status requestId r.body
      ("unrecognized content type '" ++ contentType r ++ "'")

end FailedReply

/-- Why an exchange brought no success. -/
inductive Failure where
  | lost
  | timedOut
  | refused (f : FailedReply)
  deriving DecidableEq

namespace Failure

/-- The status of the answer, if there was one. -/
def status? : Failure → Option Status
  | .refused f => some f.reply.status
  | _ => none

def toError : Failure → Error
  | .lost => .network
  | .timedOut => .timeout
  | .refused f => f.toError

/-- A failure in words, as far as they are fixed. -/
def text : Failure → String
  | .refused f => "HTTP status " ++ f.reply.status.text
  | _ => "network error"

end Failure

/-- The successful answer of an exchange, or why there is none. -/
def Http.Outcome.result : Outcome → Except Failure Reply
  | .reply r => if r.status.isSuccess then .ok r else .error (.refused (.ofReply r))
  | .timedOut => .error .timedOut
  | .lost => .error .lost

def requireStatus (expected : Status) (r : Reply) : Result Reply :=
  if r.status = expected then .ok r
  else .error (.unexpectedStatus expected r.status (r.header? Name.requestId) r.body)

end CloudDirector
