import CloudDirector.Text.Blank
import CloudDirector.Time.Instant

/-!
# Dates in RFC 3339

A date is written `2008-06-03T11:05:30.125Z`, with as few groups of three fraction digits as
are exact. Reading is relaxed: numbers may be short, white space may stand before numbers,
dashes and colons, the year may have a sign, and the offset may be `Z`, `UTC` or a sign, hours
and minutes.
-/
namespace CloudDirector.Time
open Text

/-- The least and the most year of an instant. -/
def leastYear : Int := -262143

@[inherit_doc leastYear]
def mostYear : Int := 262142

/-- The nanoseconds as fraction digits: none, three, six or nine. -/
def fractionDigits (nanos : Nat) : List Char :=
  if nanos = 0 then []
  else if nanos % 1000000 = 0 then '.' :: padded 3 (nanos / 1000000)
  else if nanos % 1000 = 0 then '.' :: padded 6 (nanos / 1000)
  else '.' :: padded 9 nanos

/-- A year; one without four digits carries its sign. -/
def yearDigits (year : Int) : List Char :=
  if 0 ≤ year ∧ year ≤ 9999 then padded 4 year.toNat
  else (if year < 0 then '-' else '+') :: padded 4 year.natAbs

namespace Instant

def writeWith (fraction : Nat → List Char) (t : Instant) : String :=
  let d := t.date
  let s := t.secondOfDay
  let leap := nanosPerSecond ≤ t.nanos
  let second := s % 60 + (if leap then 1 else 0)
  let nanos := if leap then t.nanos - nanosPerSecond else t.nanos
  String.ofList (yearDigits d.year ++ '-' :: padded 2 d.month ++ '-' :: padded 2 d.day ++
    'T' :: padded 2 (s / 3600) ++ ':' :: padded 2 (s / 60 % 60) ++ ':' :: padded 2 second ++
    fraction nanos ++ ['Z'])

/-- The instant with as many fraction digits as are exact. -/
def rfc3339 (t : Instant) : String := writeWith fractionDigits t

/-- The instant with three fraction digits, what is finer being dropped. -/
def rfc3339Millis (t : Instant) : String :=
  writeWith (fun nanos => '.' :: padded 3 (nanos / 1000000)) t

end Instant

/-- A reader takes the start of a text and leaves the rest. -/
abbrev Scan (α : Type) := List Char → Option (α × List Char)

/-- The number that at most `most` digits spell, at least one. -/
def digitsUpTo (most : Nat) (cs : List Char) : Option (Nat × List Char) :=
  let ds := (cs.take most).takeWhile Char.isDigit
  if ds = [] then none
  else some (ds.foldl (fun n c => n * 10 + (c.toNat - 48)) 0, cs.drop ds.length)

def twoDigits : Scan Nat := fun cs => digitsUpTo 2 (trimStart isBlank cs)

/-- A year of at most four digits, or with a sign of any number. -/
def readYear : Scan Int := fun cs =>
  match trimStart isBlank cs with
  | '-' :: rest => (digitsUpTo rest.length rest).map fun (n, r) => (-(n : Int), r)
  | '+' :: rest => (digitsUpTo rest.length rest).map fun (n, r) => ((n : Int), r)
  | rest => (digitsUpTo 4 rest).map fun (n, r) => ((n : Int), r)

/-- A character after optional white space. -/
def expect (c : Char) (cs : List Char) : Option (List Char) :=
  match trimStart isBlank cs with
  | d :: rest => if d = c then some rest else none
  | [] => none

def readDivider : List Char → Option (List Char)
  | c :: rest => if c = 't' ∨ c = 'T' ∨ c = ' ' then some rest else none
  | [] => none

/-- Nine fraction digits count, further ones are passed over; without a point there are none. -/
def readFraction : Scan Nat := fun cs =>
  match cs with
  | '.' :: rest =>
    let ds := rest.takeWhile Char.isDigit
    if ds = [] then none
    else
      let kept := ds.take 9
      let n := kept.foldl (fun n c => n * 10 + (c.toNat - 48)) 0
      some (n * Nat.pow 10 (9 - kept.length), rest.dropWhile Char.isDigit)
  | _ => some (0, cs)

/-- Hours and minutes after the sign of an offset, in seconds. -/
def readOffsetSize : Scan Nat := fun cs =>
  match cs with
  | a :: b :: rest =>
    if a.isDigit ∧ b.isDigit then
      match rest.dropWhile (fun c => c == ':' || isBlank c) with
      | c :: d :: after =>
        if '0' ≤ c ∧ c ≤ '5' ∧ d.isDigit then
          let hours := (a.toNat - 48) * 10 + (b.toNat - 48)
          let minutes := (c.toNat - 48) * 10 + (d.toNat - 48)
          some (hours * 3600 + minutes * 60, after)
        else none
      | _ => none
    else none
  | _ => none

def readOffset : Scan Int := fun cs =>
  match cs with
  | [] => none
  | c :: rest =>
    if (cs.take 3).map Char.toLower = ['u', 't', 'c'] then some (0, cs.drop 3)
    else if c = 'Z' ∨ c = 'z' then some (0, rest)
    else if c = '+' then (readOffsetSize rest).map fun (n, r) => ((n : Int), r)
    else if c = '-' ∨ c.toNat = 0x2212 then
      (readOffsetSize rest).map fun (n, r) => (-(n : Int), r)
    else none

def Instant.ofRfc3339? (text : String) : Option Instant := do
  let (year, cs) ← readYear text.toList
  let (month, cs) ← twoDigits (← expect '-' cs)
  let (day, cs) ← twoDigits (← expect '-' cs)
  let (hour, cs) ← twoDigits (← readDivider cs)
  let (minute, cs) ← twoDigits (← expect ':' cs)
  let (second, cs) ← twoDigits (← expect ':' cs)
  let (nanos, cs) ← readFraction cs
  let (offset, cs) ← readOffset (trimStart isBlank cs)
  let date : Date := ⟨year, month, day⟩
  guard (cs.all isBlank)
  guard (leastYear ≤ year ∧ year ≤ mostYear ∧ date.isValid)
  guard (hour ≤ 23 ∧ minute ≤ 59 ∧ second ≤ 60)
  guard (offset.natAbs < 86400)
  let (second, nanos) := if second = 60 then (59, nanos + nanosPerSecond) else (second, nanos)
  let t : Instant :=
    ⟨date.toDays * secondsPerDay + hour * 3600 + minute * 60 + second - offset, nanos⟩
  guard (leastYear ≤ t.date.year ∧ t.date.year ≤ mostYear)
  some t

end CloudDirector.Time
