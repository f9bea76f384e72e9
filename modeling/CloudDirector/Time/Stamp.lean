import CloudDirector.Time.Calendar

/-!
# Stamps

A stamp is date and time of day in UTC, in digits without anything between them. A short one has
two digits of the year, as `080603110530Z`; a long one has four, and perhaps a fraction of a
second.
-/
namespace CloudDirector.Time

/-- The number of exactly `n` digits, and what follows. -/
def digitsExactly (n : Nat) (cs : List Char) : Option (Nat × List Char) :=
  let ds := cs.take n
  if ds.length = n ∧ ds.all Char.isDigit then
    some (ds.foldl (fun n c => n * 10 + (c.toNat - 48)) 0, cs.drop n)
  else none

@[simp] theorem digitsExactly_zero (cs : List Char) : digitsExactly 0 cs = some (0, cs) := by
  simp [digitsExactly]

/-- What follows year, month, day, hour, minute and second, if they are some time in UTC. -/
def afterStamp? (cs : List Char) : Option (List Char) := do
  let (negative, cs) := match cs with
    | '-' :: rest => (true, rest)
    | '+' :: rest => (false, rest)
    | _ => (false, cs)
  let (year, cs) ← digitsExactly 4 cs
  let (month, cs) ← digitsExactly 2 cs
  let (day, cs) ← digitsExactly 2 cs
  let (hour, cs) ← digitsExactly 2 cs
  let (minute, cs) ← digitsExactly 2 cs
  let (second, cs) ← digitsExactly 2 cs
  guard (Date.isValid ⟨if negative then -(year : Int) else year, month, day⟩)
  guard (hour ≤ 23 ∧ minute ≤ 59 ∧ second ≤ 59)
  some cs

def century (year : Nat) : List Char := if year < 50 then ['2', '0'] else ['1', '9']

/-- Whether a text is a stamp with two digits of the year. -/
def isShortStamp (cs : List Char) : Bool :=
  cs.length == 13 &&
    match digitsExactly 2 cs with
    | some (year, _) => afterStamp? (century year ++ cs) == some ['Z']
    | none => false

/-- How long a stamp with a fraction of nine digits is. -/
def fullStampLength : Nat := 25

/-- The stamp with a point before its fraction, and with at least nine digits in it. -/
def withFraction (cs : List Char) : List Char :=
  let pointed := if cs.contains '.' then cs else cs.take 14 ++ '.' :: cs.drop 14
  pointed.dropLast ++ List.replicate (fullStampLength - pointed.length) '0' ++
    pointed.getLast?.toList

def isLongStamp (cs : List Char) : Bool :=
  15 ≤ cs.length &&
    match afterStamp? (withFraction cs) with
    | some ('.' :: fraction) =>
      fraction.getLast? == some 'Z' && 2 ≤ fraction.length && fraction.dropLast.all Char.isDigit
    | _ => false

theorem length_of_isShortStamp {cs : List Char} (h : isShortStamp cs = true) : cs.length = 13 := by
  simp only [isShortStamp, Bool.and_eq_true, beq_iff_eq] at h
  exact h.1

end CloudDirector.Time
