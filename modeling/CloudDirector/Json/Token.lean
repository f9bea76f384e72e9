import CloudDirector.Encoding.HexNumber
import CloudDirector.Json.Value
import CloudDirector.Number.Decimal

/-!
# JSON tokens

A JSON text is a list of tokens with spaces between them. A number or a text that has the right
form but cannot be held is a token without content.
-/
namespace CloudDirector.Json
open Number Encoding

/-- The lexical elements of a JSON text. -/
inductive Token where
  | openArray | closeArray | openObject | closeObject | colon | comma
  | null
  | bool (b : Bool)
  | number (n : Option Numeric)
  | string (s : Option String)
  deriving DecidableEq

def isJsonSpace (c : Char) : Bool :=
  c == ' ' || c == '\t' || c == Char.ofNat 10 || c == Char.ofNat 13

/-- The number that four hexadecimal digits spell. -/
def hexUnit (a b c d : Char) : Option Nat := do
  some ((((← hexDigitValue a) * 16 + (← hexDigitValue b)) * 16 + (← hexDigitValue c)) * 16 +
    (← hexDigitValue d))

/-- The characters that a backslash and one letter stand for. -/
def shortEscape (c : Char) : Option Char :=
  if c.toNat = 0x22 ∨ c.toNat = 0x5c ∨ c = '/' then some c
  else if c = 'b' then some (Char.ofNat 8)
  else if c = 'f' then some (Char.ofNat 12)
  else if c = 'n' then some (Char.ofNat 10)
  else if c = 'r' then some (Char.ofNat 13)
  else if c = 't' then some (Char.ofNat 9)
  else none

/-- Whether `n` is the first half of a surrogate pair. -/
def isHighSurrogate (n : Nat) : Bool := 0xd800 ≤ n && n ≤ 0xdbff

/-- Whether `n` is the second half of a surrogate pair. -/
def isLowSurrogate (n : Nat) : Bool := 0xdc00 ≤ n && n ≤ 0xdfff

/-- A piece of a text: a character that is written as such, or a 16-bit unit written by its
number. -/
inductive Piece where
  | char (c : Char)
  | unit (n : Nat)
  deriving DecidableEq

/-- The pieces of the inside of a quoted text, none when an escape has no meaning. -/
def piecesOf : List Char → Option (List Piece)
  | [] => some []
  | c :: rest =>
    if c.toNat = 0x5c then
      match rest with
      | 'u' :: x :: y :: z :: w :: more => do
        let n ← hexUnit x y z w
        some (.unit n :: (← piecesOf more))
      | e :: more => do
        let ch ← shortEscape e
        some (.char ch :: (← piecesOf more))
      | [] => none
    else (piecesOf rest).map (.char c :: ·)

/-- The text of the pieces, none when half a surrogate pair stands alone. -/
def joinPieces : List Piece → Option (List Char)
  | [] => some []
  | .char c :: rest => (joinPieces rest).map (c :: ·)
  | .unit n :: rest =>
    if isLowSurrogate n then none
    else if isHighSurrogate n then
      match rest with
      | .unit m :: more =>
        if isLowSurrogate m then
          (joinPieces more).map (Char.ofNat (0x10000 + (n - 0xd800) * 1024 + (m - 0xdc00)) :: ·)
        else none
      | _ => none
    else (joinPieces rest).map (Char.ofNat n :: ·)

/-- The text that the inside of a quoted text stands for. The outer option is none when an
escape has no meaning, the inner one when half a surrogate pair stands alone. -/
def unescape (cs : List Char) : Option (Option (List Char)) := (piecesOf cs).map joinPieces

/-- The inside of a quoted text whose opening quote has been read, and what follows its
closing quote. Control characters may not stand in it. -/
def insideQuotes : List Char → Option (List Char × List Char)
  | [] => none
  | c :: rest =>
    if c.toNat = 0x22 then some ([], rest)
    else if c.toNat < 0x20 then none
    else if c.toNat = 0x5c then
      match rest with
      | [] => none
      | e :: more =>
        if e.toNat < 0x20 then none
        else (insideQuotes more).map fun (inside, after) => (c :: e :: inside, after)
    else (insideQuotes rest).map fun (inside, after) => (c :: inside, after)

theorem length_after_insideQuotes {cs inside after : List Char}
    (h : insideQuotes cs = some (inside, after)) : after.length < cs.length := by
  fun_induction insideQuotes cs generalizing inside after with
  | case1 => simp at h
  | case2 c rest => simp_all
  | case3 => simp at h
  | case4 => simp at h
  | case5 => simp at h
  | case6 c _ _ _ e more _ ih =>
    obtain ⟨⟨i, a⟩, hr, heq⟩ := Option.map_eq_some_iff.1 h
    have := ih hr
    simp only [Prod.mk.injEq] at heq
    simp only [List.length_cons, ← heq.2]
    omega
  | case7 c rest _ _ _ ih =>
    obtain ⟨⟨i, a⟩, hr, heq⟩ := Option.map_eq_some_iff.1 h
    have := ih hr
    simp only [Prod.mk.injEq] at heq
    simp only [List.length_cons, ← heq.2]
    omega

def isNumberChar (c : Char) : Bool :=
  c.isDigit || c == '+' || c == '-' || c == '.' || c == 'e' || c == 'E'

private def digitValues (cs : List Char) : List Nat := cs.map fun c => c.toNat - 48

/-- Reads the exponent of a number: nothing, or a sign and at least one digit. -/
private def scaleOf : List Char → Option (Option (Bool × List Nat))
  | [] => some none
  | e :: rest =>
    if e = 'e' ∨ e = 'E' then
      let (positive, digits) := match rest with
        | '+' :: more => (true, more)
        | '-' :: more => (false, more)
        | more => (true, more)
      if digits ≠ [] ∧ digits.all Char.isDigit then some (some (positive, digitValues digits))
      else none
    else none

/-- The parts of an unsigned number, if the characters have its form. -/
private def numeralOf (cs : List Char) : Option (Numeral × Bool) :=
  let whole := cs.takeWhile Char.isDigit
  let rest := cs.dropWhile Char.isDigit
  if whole = [] ∨ (whole.head? = some '0' ∧ whole.length ≠ 1) then none
  else
    match rest with
    | '.' :: more =>
      let fraction := more.takeWhile Char.isDigit
      if fraction = [] then none
      else (scaleOf (more.dropWhile Char.isDigit)).map fun scale =>
        (⟨digitValues whole, digitValues fraction, scale⟩, false)
    | _ => (scaleOf rest).map fun scale => (⟨digitValues whole, [], scale⟩, scale.isNone)

/-- The number that the characters spell. The outer option is none when they spell none, the
inner one when it is out of range. A whole number of 64 bits is kept exactly; zero with a minus
sign is a double. -/
def numericOf (cs : List Char) : Option (Option Numeric) :=
  let (negative, digits) := match cs with
    | '-' :: more => (true, more)
    | more => (false, more)
  (numeralOf digits).map fun (numeral, isWhole) =>
    let n := Numeral.valueOf numeral.whole
    if isWhole && !negative && decide (n < wordLimit) then some (.whole n)
    else if isWhole && negative && n != 0 && decide (n ≤ Nat.pow 2 63) then some (.whole (-n))
    else numeral.size.map fun x => .real (if negative then x.neg else x)

private def wordToken (cs : List Char) : Option Token :=
  if cs = ['n', 'u', 'l', 'l'] then some .null
  else if cs = ['t', 'r', 'u', 'e'] then some (.bool true)
  else if cs = ['f', 'a', 'l', 's', 'e'] then some (.bool false)
  else none

private def punctuation (c : Char) : Option Token :=
  if c = '[' then some .openArray
  else if c = ']' then some .closeArray
  else if c.toNat = 0x7b then some .openObject
  else if c.toNat = 0x7d then some .closeObject
  else if c = ':' then some .colon
  else if c = ',' then some .comma
  else none

private theorem length_dropWhile_le' (p : Char → Bool) (cs : List Char) :
    (cs.dropWhile p).length ≤ cs.length := (List.dropWhile_sublist p).length_le

/-- The tokens of a text; none where it has no token. -/
def tokens : List Char → Option (List Token)
  | [] => some []
  | c :: rest =>
    if isJsonSpace c then tokens rest
    else if c.toNat = 0x22 then
      match h : insideQuotes rest with
      | none => none
      | some (inside, after) => do
        have := length_after_insideQuotes h
        let text ← unescape inside
        some (.string (text.map String.ofList) :: (← tokens after))
    else
      match punctuation c with
      | some t => (tokens rest).map (t :: ·)
      | none =>
        if isNumberChar c && c != 'e' && c != 'E' then do
          let n ← numericOf (c :: rest.takeWhile isNumberChar)
          some (.number n :: (← tokens (rest.dropWhile isNumberChar)))
        else do
          let t ← wordToken (c :: rest.takeWhile Char.isAlpha)
          some (t :: (← tokens (rest.dropWhile Char.isAlpha)))
termination_by cs => cs.length
decreasing_by
  · simp only [List.length_cons]; omega
  · simp only [List.length_cons]; omega
  · simp only [List.length_cons]; omega
  · simpa only [List.length_cons] using Nat.lt_succ_of_le (length_dropWhile_le' _ _)
  · simpa only [List.length_cons] using Nat.lt_succ_of_le (length_dropWhile_le' _ _)

end CloudDirector.Json
