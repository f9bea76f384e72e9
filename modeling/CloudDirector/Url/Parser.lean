import CloudDirector.Text.Blank
import CloudDirector.Url.Basic
import CloudDirector.Url.Domain
import CloudDirector.Url.Escaped

/-!
# Reading URLs

A text is read as a URL on its own or relative to a base. Spaces around it and tabs and line
ends in it do not count. The fragment and the query are cut off first; what is left is a scheme,
an authority and a path. For the schemes of the web a backslash is a slash.
-/
namespace CloudDirector.Url
open Text Encoding

def defaultPort (scheme : List Char) : Option Nat :=
  if scheme = ['h', 't', 't', 'p'] ∨ scheme = ['w', 's'] then some 80
  else if scheme = ['h', 't', 't', 'p', 's'] ∨ scheme = ['w', 's', 's'] then some 443
  else if scheme = ['f', 't', 'p'] then some 21
  else none

def isFile (scheme : List Char) : Bool := scheme == ['f', 'i', 'l', 'e']

def isWeb (scheme : List Char) : Bool := (defaultPort scheme).isSome || isFile scheme

/-- What a text is cut into before the rest of it is read. -/
structure Parts where
  main : List Char
  query : Option (List Char)
  fragment : Option (List Char)

/-- The text without surrounding spaces, tabs and line ends, cut at `#` and `?`. -/
def partsOf (text : List Char) : Parts :=
  let cs := (trimBoth (·.toNat ≤ 0x20) text).filter fun c =>
    c.toNat ≠ 9 ∧ c.toNat ≠ 10 ∧ c.toNat ≠ 13
  let (rest, fragment) := match cutFirst (· == '#') cs with
    | some (a, b) => (a, some b)
    | none => (cs, none)
  let (main, query) := match cutFirst (· == '?') rest with
    | some (a, b) => (a, some b)
    | none => (rest, none)
  ⟨main, query, fragment⟩

/-- Whether a letter, digit or mark may stand in a scheme. -/
def isSchemeChar (c : Char) : Bool := c.isAlphanum || c == '+' || c == '-' || c == '.'

/-- The scheme of a text in lower case, and what follows its colon. -/
def schemeOf (cs : List Char) : Option (List Char × List Char) :=
  match cs with
  | c :: _ =>
    if c.isAlpha then
      match cs.dropWhile isSchemeChar with
      | ':' :: rest => some ((cs.takeWhile isSchemeChar).map Char.toLower, rest)
      | _ => none
    else none
  | [] => none

/-- A slash, or a backslash where it counts as one. -/
def isSlash (web : Bool) (c : Char) : Bool := c == '/' || (web && c == '\\')

def isAnySlash (c : Char) : Bool := c == '/' || c == '\\'

/-- Whether a segment stands for the segment above. -/
def isDoubleDot (s : List Char) : Bool :=
  let l := s.map Char.toLower
  l == ['.', '.'] || l == ['%', '2', 'e', '%', '2', 'e'] || l == ['%', '2', 'e', '.'] ||
    l == ['.', '%', '2', 'e']

/-- Whether a segment stands for nothing. -/
def isSingleDot (s : List Char) : Bool := s == ['.'] || s.map Char.toLower == ['%', '2', 'e']

/-- Removes the last segment; one that begins with a drive letter stays. -/
def dropSegment (segments : List (List Char)) : List (List Char) :=
  if segments.getLast?.any beginsWithDrive then segments else segments.dropLast

def addSegments (done : List (List Char)) : List (List Char) → List (List Char)
  | [] => done
  | s :: rest =>
    let closing := if rest = [] then [[]] else []
    if isDoubleDot s then addSegments (dropSegment done ++ closing) rest
    else if isSingleDot s then addSegments (done ++ closing) rest
    else addSegments (done ++ [percentEncode escapedInPath s]) rest

/-- The path of a text that begins after the first slash. -/
def pathFrom (web : Bool) (done : List (List Char)) (cs : List Char) : List (List Char) :=
  addSegments done (pieces (isSlash web) cs)

/-- A path of files begins with one slash. -/
def dropEmptyFront : List (List Char) → List (List Char)
  | [] :: s :: rest => dropEmptyFront (s :: rest)
  | ss => ss

def pathAfterHost (web : Bool) (cs : List Char) : List (List Char) :=
  match cs with
  | [] => if web then [[]] else []
  | c :: rest => if isSlash web c then pathFrom web [] rest else pathFrom web [] (c :: rest)

def webHost? (cs : List Char) : Except Fault (List Char) :=
  match cs with
  | '[' :: rest =>
    if rest.getLast? = some ']' then
      match ipv6? rest.dropLast with
      | some ws => .ok (ipv6Text ws)
      | none => .error .badIpv6
    else .error .badIpv6
  | _ =>
    match domain? cs with
    | none => .error .badDomain
    | some [] => .error .emptyHost
    | some name =>
      if endsInNumber name then
        match ipv4? name with
        | some n => .ok (ipv4Text n)
        | none => .error .badIpv4
      else .ok name

def isForbiddenInHost (c : Char) : Bool :=
  [Char.ofNat 0, ' ', '#', '/', ':', '<', '>', '?', '@', '[', '\\', ']', '^', '|'].contains c

def otherHost? (cs : List Char) : Except Fault (List Char) :=
  match cs with
  | '[' :: rest =>
    if rest.getLast? = some ']' then
      match ipv6? rest.dropLast with
      | some ws => .ok (ipv6Text ws)
      | none => .error .badIpv6
    else .error .badIpv6
  | _ =>
    if cs.any isForbiddenInHost then .error .badHostCharacter
    else .ok (percentEncode escapedAlways cs)

/-- The characters of the host and what follows; a colon in brackets belongs to the host. -/
def cutHost (web : Bool) : (inside : Bool) → List Char → List Char × List Char
  | _, [] => ([], [])
  | inside, c :: rest =>
    if (c == ':' && !inside) || isSlash web c then ([], c :: rest)
    else
      let inside := if c == '[' then true else if c == ']' then false else inside
      let (host, after) := cutHost web inside rest
      (c :: host, after)

/-- The port after a colon and what follows; the port that the scheme has by itself, or none
at all, is left out. -/
def portOf (scheme : List Char) (cs : List Char) : Except Fault (Option Nat × List Char) :=
  let digits := cs.takeWhile Char.isDigit
  let rest := cs.dropWhile Char.isDigit
  let n := digits.foldl (fun n c => n * 10 + (c.toNat - 48)) 0
  if 65535 < n then .error .badPort
  else
    match rest with
    | c :: _ =>
      if isAnySlash c then
        .ok (if digits = [] ∨ defaultPort scheme = some n then none else some n, rest)
      else .error .badPort
    | [] => .ok (if digits = [] ∨ defaultPort scheme = some n then none else some n, [])

/-- User and password before the last `@` of the authority. -/
def userOf (cs : List Char) : List Char × Option (List Char) :=
  let encode := percentEncode escapedInUser
  match cutFirst (· == ':') cs with
  | none => (encode cs, none)
  | some (user, password) => (encode user, if password = [] then none else some (encode password))

/-- What precedes the last `@` of the authority, if there is one, and what follows it. -/
def cutUser (web : Bool) (cs : List Char) : Option (List Char) × List Char :=
  match cutLast (· == '@') (cs.takeWhile (!isSlash web ·)) with
  | none => (none, cs)
  | some (before, _) => (some before, cs.drop (before.length + 1))

/-- Whether an empty user stands before no host. `more` says that a query or fragment follows
the text. -/
def namesNobody (web more : Bool) (user : Option (List Char)) (rest : List Char) : Bool :=
  user == some [] && match rest with
    | [] => more
    | c :: _ => isSlash web c

def host? (scheme cs : List Char) : Except Fault (List Char) :=
  if isWeb scheme then webHost? cs else otherHost? cs

def hostOf (scheme cs : List Char) : Except Fault (List Char × Option Nat × List Char) :=
  let (hostText, rest) := cutHost (isWeb scheme) false cs
  if isWeb scheme && hostText.isEmpty then .error .emptyHost
  else do
    let host ← host? scheme hostText
    match rest with
    | ':' :: after =>
      if host = [] then .error .emptyHost
      else do
        let (port, rest) ← portOf scheme after
        return (host, port, rest)
    | _ => return (host, none, rest)

/-- The authority after two slashes, and what follows it. `more` says that a query or fragment
follows the text. -/
def authorityOf (scheme : List Char) (more : Bool) (cs : List Char) :
    Except Fault (Authority × List Char) :=
  let (user, rest) := cutUser (isWeb scheme) cs
  if namesNobody (isWeb scheme) more user rest then .error .emptyHost
  else do
    let (host, port, rest) ← hostOf scheme rest
    let (name, password) := userOf (user.getD [])
    if host = [] ∧ (name ≠ [] ∨ password.isSome) then .error .emptyHost
    else return (⟨name, password, host, port⟩, rest)

def withAuthority (scheme : List Char) (p : Parts) (cs : List Char) : Except Fault Url := do
  let (authority, rest) ← authorityOf scheme (p.query.isSome || p.fragment.isSome) cs
  return ⟨scheme, some authority, .segments (pathAfterHost (isWeb scheme) rest), none, none⟩

def noHost : Authority := ⟨[], none, [], none⟩

def fileAt (authority : Authority) (segments : List (List Char)) : Url :=
  ⟨['f', 'i', 'l', 'e'], some authority, .segments (dropEmptyFront segments), none, none⟩

/-- The segments of the path of a file from the root on; a drive letter in front of them is
written with a colon. -/
def fromRoot (cs : List Char) : List (List Char) :=
  match pieces isAnySlash cs with
  | [] => [[]]
  | s :: rest => addSegments [] (withDriveColon s :: rest)

/-- A URL of a file after two slashes. A host that is a drive letter is none but belongs to the
path, and a drive has no host. -/
def fileOnHost (cs : List Char) : Except Fault Url := do
  let hostText := cs.takeWhile (!isAnySlash ·)
  if isDriveLetter hostText then return fileAt noHost (fromRoot cs)
  let host ← if hostText = [] then pure [] else webHost? hostText
  match cs.dropWhile (!isAnySlash ·) with
  | [] => return fileAt (onHost host) [[]]
  | _ :: path =>
    if onHost host = noHost then return fileAt noHost (pathFrom true [] path)
    else if isDriveLetter (path.takeWhile (!isAnySlash ·)) then
      return fileAt noHost (fromRoot path)
    else return fileAt (onHost host) (pathFrom true [] path)
where
  /-- The authority with a host; this machine needs none. -/
  onHost (host : List Char) : Authority :=
    if host = ['l', 'o', 'c', 'a', 'l', 'h', 'o', 's', 't'] then noHost else { noHost with host }

/-- A URL of a file after one slash: on the drive of the base, or else on its host, unless it
names a drive itself. -/
def fileOnDrive (base : Option Url) (cs : List Char) : Url :=
  if isDriveLetter (cs.takeWhile (!isAnySlash ·)) then fileAt noHost (pathFrom true [] cs)
  else
    match base with
    | some ⟨_, authority, .segments (s :: _), _, _⟩ =>
      if isDriveColon s then fileAt noHost (pathFrom true [s] cs)
      else fileAt (authority.getD noHost) (pathFrom true [] cs)
    | _ => fileAt noHost (pathFrom true [] cs)

/-- A URL of a file; `main` is what follows the scheme. -/
def fileUrl (base : Option Url) (p : Parts) (main : List Char) : Except Fault Url :=
  match main with
  | [] => .ok <| match base with
    | some b => { b with query := if p.query.isSome then none else b.query, fragment := none }
    | none => fileAt noHost [[]]
  | a :: rest =>
    if isAnySlash a then
      match rest with
      | b :: more => if isAnySlash b then fileOnHost more else .ok (fileOnDrive base rest)
      | [] => .ok (fileOnDrive base rest)
    else
      match base with
      | some ⟨_, authority, .segments above, _, _⟩ =>
        if isDriveLetter (main.takeWhile (!isAnySlash ·)) then .ok (fileAt noHost (fromRoot main))
        else
          let above := if above.getLast?.any isDriveColon then above else above.dropLast
          .ok (fileAt (authority.getD noHost) (pathFrom true above main))
      | _ => .ok (fileAt noHost (fromRoot main))

def relativeTo (base : Url) (p : Parts) (main : List Char) : Except Fault Url := do
  let web := isWeb base.scheme
  let above := match base.path with
    | .segments ss => ss
    | .opaqueText _ => []
  match main with
  | [] =>
    return { base with query := if p.query.isSome then none else base.query, fragment := none }
  | c :: rest =>
    if isAnySlash c then
      match rest with
      | d :: after =>
        if c == '/' && d == '/' then withAuthority base.scheme p after
        else if isAnySlash d then withAuthority base.scheme p (main.dropWhile isAnySlash)
        else withSegments (pathFrom web [] rest)
      | [] => withSegments (pathFrom web [] [])
    else
      withSegments (pathFrom web above.dropLast main)
where
  /-- The base with other segments, and with neither query nor fragment. -/
  withSegments (segments : List (List Char)) : Except Fault Url :=
    return { base with path := .segments segments, query := none, fragment := none }

def mainUrl (base : Option Url) (p : Parts) : Except Fault Url :=
  match schemeOf p.main with
  | some (scheme, rest) =>
    if isFile scheme then fileUrl (base.filter (isFile ·.scheme)) p rest
    else if isWeb scheme then
      let slashes := rest.takeWhile isAnySlash
      match base with
      | some b =>
        if slashes.length < 2 ∧ b.scheme = scheme then relativeTo b p rest
        else withAuthority scheme p (rest.dropWhile isAnySlash)
      | none => withAuthority scheme p (rest.dropWhile isAnySlash)
    else
      match rest with
      | '/' :: '/' :: after => withAuthority scheme p after
      | '/' :: after => .ok ⟨scheme, none, .segments (pathFrom false [] after), none, none⟩
      | _ => .ok ⟨scheme, none, .opaqueText (percentEncode escapedAlways rest), none, none⟩
  | none =>
    match base with
    | none => .error .relativeWithoutBase
    | some b =>
      if p.main = [] ∧ p.query = none ∧ p.fragment.isSome then .ok { b with fragment := none }
      else if b.isOpaque then .error .relativeToOpaqueBase
      else if isFile b.scheme then fileUrl (some b) p p.main
      else relativeTo b p p.main

def parse (base : Option Url) (text : String) : Except Fault Url := do
  let p := partsOf text.toList
  let u ← mainUrl base p
  let query := match p.query with
    | some q => some (percentEncode (escapedInQuery (isWeb u.scheme)) q)
    | none => u.query
  return { u with query, fragment := p.fragment.map (percentEncode escapedInFragment) }

def ofText (text : String) : Except Fault Url := parse none text

/-- The URL that a text names relative to `base`. -/
def join (base : Url) (text : String) : Except Fault Url := parse (some base) text

end CloudDirector.Url
