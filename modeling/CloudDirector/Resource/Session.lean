import CloudDirector.Resource.Link

/-!
# Session resources

The document with which a server answers a login, and which it shows for the current session.
-/
namespace CloudDirector
open Json

/-- A session as the server describes it. -/
structure SessionResource where
  href : Option String
  org : Option String
  user : Option String
  userId : Option String
  link : List Link
  deriving DecidableEq, Repr, Inhabited

namespace SessionResource

def members : List String := ["href", "org", "user", "userId", "link"]

def ofDocument : Decoder SessionResource := fun d => do
  let r ← d.record? members
  some {
    href := ← r.optional "href" .text
    org := ← r.optional "org" .text
    user := ← r.optional "user" .text
    userId := ← r.optional "userId" .text
    link := ← r.orElse "link" [] (.list Link.ofDocument) }

def toJson (s : SessionResource) : Value :=
  .ofFields [("href", s.href.map .string), ("org", s.org.map .string),
    ("user", s.user.map .string), ("userId", s.userId.map .string),
    ("link", some (Link.listJson s.link))]

instance : Linked SessionResource := ⟨SessionResource.href, SessionResource.link⟩

end SessionResource

end CloudDirector
