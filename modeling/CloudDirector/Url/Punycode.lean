import CloudDirector.Text.Cut

/-!
# Punycode

A label with characters beyond ASCII is written with its ASCII characters first and then, for
each other character in ascending order, how far it is from the one before, in a number system
whose digit weights adapt to the sizes seen so far.
-/
namespace CloudDirector.Url.Punycode

def digitChar (d : Nat) : Char := if d < 26 then Char.ofNat (97 + d) else Char.ofNat (22 + d)

def digitValue (c : Char) : Option Nat :=
  let n := c.toNat
  if 97 ≤ n ∧ n ≤ 122 then some (n - 97)
  else if 65 ≤ n ∧ n ≤ 90 then some (n - 65)
  else if 48 ≤ n ∧ n ≤ 57 then some (n - 22)
  else none

/-- The threshold of the digit at position `k`. -/
def threshold (k bias : Nat) : Nat :=
  if k ≤ bias then 1 else if bias + 26 ≤ k then 26 else k - bias

theorem threshold_bounds (k bias : Nat) : 1 ≤ threshold k bias ∧ threshold k bias ≤ 26 := by
  unfold threshold
  split
  · omega
  · split <;> omega

/-- Divides `delta` by 35 until it is at most 455. -/
def settle (delta k : Nat) : Nat × Nat :=
  if 455 < delta then settle (delta / 35) (k + 36) else (delta, k)
termination_by delta
decreasing_by exact Nat.div_lt_self (by omega) (by omega)

/-- The bias after a difference `delta` at `points` characters. -/
def adapt (delta points : Nat) (first : Bool) : Nat :=
  let d := if first then delta / 700 else delta / 2
  let (rest, k) := settle (d + d / points) 0
  k + 36 * rest / (rest + 38)

/-- A difference in digits of adapted weight. -/
def writeDelta (bias k q : Nat) : List Char :=
  let t := threshold k bias
  if q < t then [digitChar q]
  else digitChar (t + (q - t) % (36 - t)) :: writeDelta bias (k + 36) ((q - t) / (36 - t))
termination_by q
decreasing_by
  have := threshold_bounds k bias
  calc (q - threshold k bias) / (36 - threshold k bias)
      ≤ q - threshold k bias := Nat.div_le_self _ _
    _ < q := by omega

/-- What has been written so far. -/
structure Progress where
  output : List Char
  delta : Nat
  bias : Nat
  handled : Nat

/-- Passes one character of the label while the characters with number `n` are inserted. -/
def pass (basic n : Nat) (p : Progress) (c : Char) : Progress :=
  if c.toNat < n then { p with delta := p.delta + 1 }
  else if c.toNat = n then
    ⟨p.output ++ writeDelta p.bias 36 p.delta, 0,
      adapt p.delta (p.handled + 1) (p.handled == basic), p.handled + 1⟩
  else p

def insertAll (label : List Char) (basic : Nat) : (numbers : List Nat) → Nat → Progress → Progress
  | [], _, p => p
  | n :: more, last, p =>
    let p := { p with delta := p.delta + (n - last) * (p.handled + 1) }
    let p := label.foldl (pass basic n) p
    insertAll label basic more (n + 1) { p with delta := p.delta + 1 }

def encode (label : List Char) : List Char :=
  let basic := label.filter (·.toNat < 0x80)
  let numbers := ((label.filter (0x80 ≤ ·.toNat)).map Char.toNat).mergeSort.eraseDups
  let start := basic ++ (if basic = [] then [] else ['-'])
  (insertAll label basic.length numbers 0x80 ⟨start, 0, 72, basic.length⟩).output

/-- The most that a difference or the weight of a digit may be. -/
def mostValue : Nat := 0xffffffff

/-- Reads one difference: its value added to `i`, and what follows. -/
def readDelta (bias : Nat) : (k w i : Nat) → List Char → Option (Nat × List Char)
  | _, _, _, [] => none
  | k, w, i, c :: rest =>
    match digitValue c with
    | none => none
    | some d =>
      let i := i + d * w
      let t := threshold k bias
      if mostValue < i then none
      else if d < t then some (i, rest)
      else if mostValue < w * (36 - t) then none
      else readDelta bias (k + 36) (w * (36 - t)) i rest

theorem length_readDelta {bias k w i j : Nat} {cs rest : List Char}
    (h : readDelta bias k w i cs = some (j, rest)) : rest.length < cs.length := by
  induction cs generalizing k w i with
  | nil => simp [readDelta] at h
  | cons c cs ih =>
    simp only [readDelta] at h
    split at h
    · simp at h
    · split at h
      · simp at h
      · split at h
        · simp at h
          simp [h.2]
        · split at h
          · simp at h
          · exact Nat.lt_succ_of_lt (ih h)

/-- Inserts `c` at position `i`. -/
def insertAt (label : List Char) (i : Nat) (c : Char) : List Char :=
  label.take i ++ c :: label.drop i

def readAll (label : List Char) (n i bias : Nat) (cs : List Char) : Option (List Char) :=
  if cs = [] then some label
  else
    match h : readDelta bias 36 1 i cs with
    | none => none
    | some (j, rest) =>
      have := length_readDelta h
      let size := label.length + 1
      let number := n + j / size
      if 0x10ffff < number ∨ (0xd800 ≤ number ∧ number ≤ 0xdfff) then none
      else
        readAll (insertAt label (j % size) (Char.ofNat number)) number (j % size + 1)
          (adapt (j - i) size (i == 0)) rest
termination_by cs.length

/-- The label that Punycode stands for. A hyphen in front parts nothing and is no digit. -/
def decode (cs : List Char) : Option (List Char) :=
  if cs.any (0x80 ≤ ·.toNat) then none
  else
    match Text.cutLast (· == '-') cs with
    | some (c :: before, behind) => readAll (c :: before) 0x80 0 72 behind
    | _ => readAll [] 0x80 0 72 cs

end CloudDirector.Url.Punycode
