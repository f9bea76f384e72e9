import CloudDirector.Encoding.Base64
import CloudDirector.Text.Description
import CloudDirector.Text.Utf8

/-!
# Passwords and bearer tokens

A user of an organization logs in with a password, which is sent in base64, or with a token of
the organization. Two password logins are equal when they send the same header.
-/
namespace CloudDirector
open Text Encoding

def base64Text (s : String) : String := String.ofList (base64 (utf8 s.toList))

structure BasicLogin where
  user : String
  org : String
  password : String
  deriving DecidableEq, Repr

namespace BasicLogin

def header (c : BasicLogin) : String :=
  "Basic " ++ base64Text (c.user ++ "@" ++ c.org ++ ":" ++ c.password)

def same (a b : BasicLogin) : Bool := a.header == b.header

/-- The description, which leaves out the password. -/
def description (c : BasicLogin) : String :=
  describedPartly "BasicCredentials" [("user", quoted c.user), ("org", quoted c.org)]

end BasicLogin

structure BearerLogin where
  token : String
  org : String
  deriving DecidableEq, Repr

namespace BearerLogin

def header (c : BearerLogin) : String := "Bearer " ++ c.token ++ ";org=" ++ c.org

/-- The description, which leaves out the token. -/
def description (c : BearerLogin) : String :=
  describedPartly "BearerCredentials" [("org", quoted c.org)]

end BearerLogin

end CloudDirector
