import CloudDirector.Text.Cut
import CloudDirector.Encoding.Form
import CloudDirector.Url.Drive

/-!
# URLs

A URL has a scheme, an optional authority, a path, an optional query and an optional fragment,
each in the form in which it is shown. A path is either one opaque text or a list of segments.
-/
namespace CloudDirector.Url
open Text Encoding

structure Authority where
  user : List Char
  password : Option (List Char)
  host : List Char
  port : Option Nat
  deriving DecidableEq, Repr

inductive Path where
  | opaqueText (cs : List Char)
  | segments (segments : List (List Char))
  deriving DecidableEq, Repr

/-- The text of a path: each segment follows a slash. -/
def Path.chars : Path → List Char
  | .opaqueText cs => cs
  | .segments ss => ss.flatMap ('/' :: ·)

end CloudDirector.Url

namespace CloudDirector

/-- A uniform resource locator. -/
structure Url where
  scheme : List Char
  authority : Option Url.Authority
  path : Url.Path
  query : Option (List Char)
  fragment : Option (List Char)
  deriving DecidableEq, Repr

namespace Url
open Text Encoding

/-- User and password as they stand before the host. -/
def Authority.userinfo (a : Authority) : List Char :=
  match a.password with
  | some p => a.user ++ ':' :: p ++ ['@']
  | none => if a.user = [] then [] else a.user ++ ['@']

def Authority.chars (a : Authority) : List Char :=
  a.userinfo ++ a.host ++ (a.port.elim [] fun n => ':' :: Nat.toDigits 10 n)

/-- What stands before the path. -/
def front (u : Url) : List Char :=
  u.scheme ++ ':' :: match u.authority with
    | some a => '/' :: '/' :: a.chars
    | none =>
      match u.path with
      | .segments ([] :: _ :: _) => ['/', '.']
      | _ => []

/-- What stands after the path. -/
def back (u : Url) : List Char :=
  (u.query.elim [] ('?' :: ·)) ++ (u.fragment.elim [] ('#' :: ·))

def chars (u : Url) : List Char := u.front ++ u.path.chars ++ u.back

def text (u : Url) : String := String.ofList u.chars

def pathText (u : Url) : String := String.ofList u.path.chars

def isOpaque (u : Url) : Bool :=
  match u.path with
  | .opaqueText _ => true
  | .segments _ => false

def queryPairs (u : Url) : List (String × String) := u.query.elim [] unformPairs

def appendPair (u : Url) (pair : String × String) : Url :=
  { u with query := some (appendFormPair (u.query.getD []) pair) }

/-- The URL with pairs at the end of its query; without pairs it is unchanged. -/
def appendPairs (u : Url) (pairs : List (String × String)) : Url := pairs.foldl appendPair u

@[simp] theorem appendPairs_nil (u : Url) : u.appendPairs [] = u := rfl

def isOnHost (u : Url) : Bool :=
  u.scheme == ['f', 'i', 'l', 'e'] && u.authority.any fun a => a.host != []

/-- The URL with a slash at the end of its path; an opaque path does not begin with one, and a
drive on some host gets its colon. -/
def withSlash (u : Url) : Url :=
  if u.path.chars.getLast? = some '/' then u
  else
    match u.path with
    | .opaqueText [] => { u with path := .opaqueText ['%', '2', 'F'] }
    | .opaqueText cs => { u with path := .opaqueText (cs ++ ['/']) }
    | .segments [] => { u with path := .segments [[]] }
    | .segments (s :: ss) =>
      let first := if u.isOnHost then withDriveColon s else s
      { u with path := .segments (first :: ss ++ [[]]) }

end Url

end CloudDirector
