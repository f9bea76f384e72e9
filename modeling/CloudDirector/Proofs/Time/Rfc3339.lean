import CloudDirector.Proofs.Time.Calendar
import CloudDirector.Time.Rfc3339
import Mathlib.Algebra.Group.Nat.Defs
import Mathlib.Data.Option.Basic

/-!
# Written instants are read again

A reader takes exactly what the writer of its part has put in front of a text. So the instant that
an RFC 3339 text names is the one that was written, up to the fraction digits that the text has.
-/
namespace CloudDirector.Time
open Text

theorem isDigit_padded {width n : Nat} {c : Char} (h : c ∈ padded width n) : c.isDigit = true := by
  rcases List.mem_append.1 h with hzero | hdigit
  · rw [List.eq_of_mem_replicate hzero]
    rfl
  · exact Nat.isDigit_of_mem_toDigits (by decide) (by decide) hdigit

theorem padded_ne_nil (width n : Nat) : padded width n ≠ [] := by
  have hpos : 0 < (Nat.toDigits 10 n).length := Nat.length_toDigits_pos
  unfold padded
  intro hnil
  have hlength := congrArg List.length hnil
  rw [List.length_append, List.length_nil] at hlength
  omega

theorem length_padded {width n : Nat} (hwidth : 0 < width) (hn : n < 10 ^ width) :
    (padded width n).length = width := by
  have hle := (Nat.length_toDigits_le_iff (b := 10) (by decide) hwidth).2 hn
  unfold padded
  rw [List.length_append, List.length_replicate]
  omega

theorem ofDigitChars_padded (width n : Nat) : Nat.ofDigitChars 10 (padded width n) 0 = n := by
  unfold padded
  rw [Nat.ofDigitChars_append, Nat.ofDigitChars_replicate_zero, Nat.mul_zero,
    Nat.ofDigitChars_ten_toDigits]

theorem foldl_digits (ds : List Char) :
    ds.foldl (fun n c => n * 10 + (c.toNat - 48)) 0 = Nat.ofDigitChars 10 ds 0 := by
  rw [Nat.ofDigitChars_eq_foldl]
  simp [Nat.mul_comm]

theorem toNat_of_isDigit {c : Char} (h : c.isDigit = true) : 48 ≤ c.toNat ∧ c.toNat ≤ 57 := by
  simpa [Char.isDigit, UInt32.le_iff_toNat_le] using h

/-- Digits spell less than a power of ten. -/
theorem foldl_digits_lt {ds : List Char} (h : ∀ c ∈ ds, c.isDigit = true) (n : Nat) :
    ds.foldl (fun n c => n * 10 + (c.toNat - 48)) n < (n + 1) * 10 ^ ds.length := by
  induction ds generalizing n with
  | nil => simp
  | cons c ds ih =>
    have hc := toNat_of_isDigit (h c List.mem_cons_self)
    have hlt := ih (fun d hd => h d (List.mem_cons_of_mem _ hd)) (n * 10 + (c.toNat - 48))
    calc ds.foldl (fun n c => n * 10 + (c.toNat - 48)) (n * 10 + (c.toNat - 48))
        < (n * 10 + (c.toNat - 48) + 1) * 10 ^ ds.length := hlt
      _ ≤ ((n + 1) * 10) * 10 ^ ds.length := Nat.mul_le_mul_right _ (by omega)
      _ = (n + 1) * 10 ^ (ds.length + 1) := by rw [Nat.pow_succ', Nat.mul_assoc]

theorem isBlank_of_isDigit {c : Char} (h : c.isDigit = true) : isBlank c = false := by
  have hrange := toNat_of_isDigit h
  unfold isBlank
  simp only [Bool.or_eq_false_iff, Bool.and_eq_false_iff, decide_eq_false_iff_not,
    beq_eq_false_iff_ne]
  omega

theorem trimStart_padded (width n : Nat) (rest : List Char) :
    trimStart isBlank (padded width n ++ rest) = padded width n ++ rest := by
  cases h : padded width n with
  | nil => exact absurd h (padded_ne_nil width n)
  | cons c ds =>
    have hc : c ∈ padded width n := by simp [h]
    have hblank := isBlank_of_isDigit (isDigit_padded hc)
    simp [trimStart, hblank]

/-- Digits are read up to the most that are wanted, or up to the first other character. -/
theorem digitsUpTo_append {most : Nat} {ds rest : List Char} (hdigits : ∀ c ∈ ds, c.isDigit = true)
    (hne : ds ≠ []) (hlength : ds.length ≤ most)
    (hrest : ds.length = most ∨ ∀ c, rest.head? = some c → c.isDigit = false) :
    digitsUpTo most (ds ++ rest) = some (Nat.ofDigitChars 10 ds 0, rest) := by
  have htake : ((ds ++ rest).take most).takeWhile Char.isDigit = ds := by
    rw [List.take_append, List.take_of_length_le hlength,
      List.takeWhile_append_of_pos hdigits]
    rcases hrest with hfull | hstop
    · simp [hfull]
    · cases rest with
      | nil => simp
      | cons c rest =>
        have hc := hstop c rfl
        cases most - ds.length <;> simp [hc]
  unfold digitsUpTo
  simp only [htake, if_neg hne, foldl_digits, List.drop_left]

/-- What is padded to a width that it does not exceed is read in this width. -/
theorem digitsUpTo_padded {width n : Nat} (hwidth : 0 < width) (hn : n < 10 ^ width)
    (rest : List Char) : digitsUpTo width (padded width n ++ rest) = some (n, rest) := by
  have hlength := length_padded hwidth hn
  rw [digitsUpTo_append (fun _ => isDigit_padded) (padded_ne_nil width n) (Nat.le_of_eq hlength)
    (.inl hlength), ofDigitChars_padded]

theorem twoDigits_padded {n : Nat} (hn : n < 100) (rest : List Char) :
    twoDigits (padded 2 n ++ rest) = some (n, rest) := by
  unfold twoDigits
  rw [trimStart_padded]
  exact digitsUpTo_padded (by decide) hn rest

private theorem readYear_padded {n : Nat} (hn : n < 10000) (rest : List Char) :
    readYear (padded 4 n ++ rest) = some ((n : Int), rest) := by
  have hread : digitsUpTo 4 (padded 4 n ++ rest) = some (n, rest) :=
    digitsUpTo_padded (by decide) hn rest
  unfold readYear
  rw [trimStart_padded]
  cases h : padded 4 n with
  | nil => exact absurd h (padded_ne_nil 4 n)
  | cons c ds =>
    have hmem : c ∈ padded 4 n := by simp [h]
    have hc := isDigit_padded hmem
    rw [h] at hread
    split
    · rename_i heq
      cases heq
      cases hc
    · rename_i heq
      cases heq
      cases hc
    · rw [hread]
      rfl

/-- A year with a sign is read up to the dash after it. -/
private theorem readYear_signed {sign : Char} (n : Nat) (rest : List Char)
    (hsign : sign = '-' ∨ sign = '+') : readYear (sign :: padded 4 n ++ '-' :: rest) =
      some (if sign = '-' then -(n : Int) else n, '-' :: rest) := by
  have hread : digitsUpTo (padded 4 n ++ '-' :: rest).length (padded 4 n ++ '-' :: rest) =
      some (n, '-' :: rest) := by
    rw [digitsUpTo_append (fun _ => isDigit_padded) (padded_ne_nil 4 n) (by simp)
      (.inr (by simp)), ofDigitChars_padded]
  rw [List.length_append, List.length_cons] at hread
  rcases hsign with rfl | rfl <;> simp [readYear, trimStart, isBlank, hread]

/-- A year is read whether it has a sign or not. -/
theorem readYear_yearDigits (year : Int) (rest : List Char) :
    readYear (yearDigits year ++ '-' :: rest) = some (year, '-' :: rest) := by
  unfold yearDigits
  split
  case isTrue hyear =>
    rw [readYear_padded (by omega), Int.toNat_of_nonneg hyear.1]
  case isFalse hyear =>
    by_cases hneg : year < 0
    · rw [if_pos hneg, readYear_signed _ _ (.inl rfl), if_pos rfl]
      congr 2
      omega
    · rw [if_neg hneg, readYear_signed _ _ (.inr rfl), if_neg (by decide)]
      congr 2
      omega

theorem expect_cons {c : Char} (hc : isBlank c = false) (rest : List Char) :
    expect c (c :: rest) = some rest := by
  simp [expect, trimStart, hc]

/-- A fraction of some digits stands for as many of nine, the others being zeros. -/
theorem readFraction_padded {width n : Nat} (hwidth : 0 < width) (hmost : width ≤ 9)
    (hn : n < 10 ^ width) :
    readFraction ('.' :: padded width n ++ ['Z']) = some (n * 10 ^ (9 - width), ['Z']) := by
  have hlength : (padded width n).length = width := length_padded hwidth hn
  have htake : (padded width n ++ ['Z']).takeWhile Char.isDigit = padded width n := by
    rw [List.takeWhile_append_of_pos fun _ => isDigit_padded]
    simp
  have hdrop : (padded width n ++ ['Z']).dropWhile Char.isDigit = ['Z'] := by
    rw [List.dropWhile_append_of_pos fun _ => isDigit_padded]
    rfl
  have hkept : (padded width n).take 9 = padded width n := List.take_of_length_le (by omega)
  unfold readFraction
  simp only [List.cons_append, htake, hdrop, hkept, if_neg (padded_ne_nil width n), foldl_digits,
    ofDigitChars_padded, hlength, Nat.pow_eq]

theorem readFraction_fractionDigits {nanos : Nat} (h : nanos < Instant.nanosPerSecond) :
    readFraction (fractionDigits nanos ++ ['Z']) = some (nanos, ['Z']) := by
  unfold Instant.nanosPerSecond at h
  unfold fractionDigits
  split
  case isTrue hzero => rw [hzero]; rfl
  case isFalse =>
    split
    case isTrue hmillis =>
      rw [readFraction_padded (by decide) (by decide) (by omega)]
      congr 2
      omega
    case isFalse =>
      split
      case isTrue hmicros =>
        rw [readFraction_padded (by decide) (by decide) (by omega)]
        congr 2
        omega
      case isFalse =>
        rw [readFraction_padded (by decide) (by decide) (by omega)]
        congr 2
        omega

theorem readFraction_millis {n : Nat} (hn : n < 1000) :
    readFraction ('.' :: padded 3 n ++ ['Z']) = some (n * 1000000, ['Z']) :=
  readFraction_padded (by decide) (by decide) hn

theorem readFraction_lt {cs rest : List Char} {n : Nat} (h : readFraction cs = some (n, rest)) :
    n < Instant.nanosPerSecond := by
  unfold readFraction at h
  split at h
  case h_1 digits =>
    dsimp only at h
    split at h
    · cases h
    · obtain ⟨rfl, rfl⟩ := Prod.mk.inj (Option.some.inj h)
      have hkept : ∀ c ∈ (digits.takeWhile Char.isDigit).take 9, c.isDigit = true := fun c hc =>
        List.all_eq_true.1 List.all_takeWhile c (List.mem_of_mem_take hc)
      have hlength : ((digits.takeWhile Char.isDigit).take 9).length ≤ 9 := List.length_take_le _ _
      have hlt := foldl_digits_lt hkept 0
      rw [Nat.zero_add, Nat.one_mul] at hlt
      calc _ < 10 ^ _ * 10 ^ (9 - _) := Nat.mul_lt_mul_of_pos_right hlt (Nat.pow_pos (by decide))
        _ = 10 ^ 9 := by rw [← Nat.pow_add, Nat.add_sub_of_le hlength]
  case h_2 =>
    cases h
    decide

theorem readOffsetSize_mod {cs rest : List Char} {n : Nat}
    (h : readOffsetSize cs = some (n, rest)) : n % 60 = 0 := by
  unfold readOffsetSize at h
  split at h <;> try cases h
  split at h <;> try cases h
  split at h <;> try cases h
  split at h <;> try cases h
  omega

theorem readOffset_mod {cs rest : List Char} {offset : Int}
    (h : readOffset cs = some (offset, rest)) : offset % 60 = 0 := by
  have hsize {rest' : List Char} {f : Nat → Int} (hf : ∀ n, n % 60 = 0 → f n % 60 = 0)
      (h : (readOffsetSize rest').map (fun p => (f p.1, p.2)) = some (offset, rest)) :
      offset % 60 = 0 := by
    obtain ⟨⟨n, r⟩, hn, heq⟩ := Option.map_eq_some_iff.1 h
    obtain ⟨rfl, -⟩ := Prod.mk.inj heq
    exact hf n (readOffsetSize_mod hn)
  unfold readOffset at h
  cases cs with
  | nil => cases h
  | cons c cs =>
    dsimp only at h
    split at h
    · cases h
      rfl
    split at h
    · cases h
      rfl
    split at h
    · exact hsize (f := fun n => (n : Int)) (fun n hn => by omega) h
    split at h
    · exact hsize (f := fun n => -(n : Int)) (fun n hn => by omega) h
    · cases h

theorem Date.lt_of_isValid {d : Date} (h : d.isValid = true) : d.month < 100 ∧ d.day < 100 := by
  have hdays : daysInMonth d.year d.month ≤ 31 := by
    unfold daysInMonth
    split
    · split <;> decide
    · split <;> decide
  simp only [isValid, Bool.and_eq_true, decide_eq_true_eq] at h
  omega

namespace Instant

/-- The instants that there are, as `isValid_of_ofRfc3339` says of those that are read: the
nanoseconds run past a thousand million in the last second of a minute only, and the year is in
range. -/
structure IsValid (t : Instant) : Prop where
  nanos : t.nanos < 2 * nanosPerSecond
  leap : nanosPerSecond ≤ t.nanos → t.seconds % 60 = 59
  year : leastYear ≤ t.date.year ∧ t.date.year ≤ mostYear

theorem secondOfDay_lt (t : Instant) : t.secondOfDay < 86400 := by
  have hpos := Int.fmod_lt_of_pos t.seconds (b := 86400) (by decide)
  have hnonneg := Int.fmod_nonneg_of_pos t.seconds (b := 86400) (by decide)
  unfold secondOfDay secondsPerDay
  omega

/-- An instant is a day and the second of it. -/
theorem toDays_date (t : Instant) :
    t.date.toDays * secondsPerDay + t.secondOfDay = t.seconds := by
  have hsplit := Int.mul_fdiv_add_fmod t.seconds 86400
  have hnonneg := Int.fmod_nonneg_of_pos t.seconds (b := 86400) (by decide)
  unfold date secondOfDay
  rw [Date.toDays_ofDays]
  unfold secondsPerDay
  omega

/-- The text of a date and a time of day is read part by part. -/
theorem ofRfc3339_parts {year : Int} {month day hour minute second n : Nat} {fraction : List Char}
    {t : Instant} (hdate : (⟨year, month, day⟩ : Date).isValid = true)
    (htime : hour ≤ 23 ∧ minute ≤ 59 ∧ second ≤ 60)
    (hfraction : readFraction (fraction ++ ['Z']) = some (n, ['Z']))
    (hseconds : t.seconds = (⟨year, month, day⟩ : Date).toDays * secondsPerDay + hour * 3600 +
      minute * 60 + (if second = 60 then 59 else second : Nat))
    (hnanos : t.nanos = n + if second = 60 then nanosPerSecond else 0)
    (hyear : leastYear ≤ year ∧ year ≤ mostYear)
    (hread : leastYear ≤ t.date.year ∧ t.date.year ≤ mostYear) :
    ofRfc3339? (String.ofList (yearDigits year ++ '-' :: padded 2 month ++ '-' :: padded 2 day ++
      'T' :: padded 2 hour ++ ':' :: padded 2 minute ++ ':' :: padded 2 second ++
      fraction ++ ['Z'])) = some t := by
  obtain ⟨hmonth, hday⟩ := Date.lt_of_isValid hdate
  have hhour : hour < 100 := by omega
  have hminute : minute < 100 := by omega
  have hsecond : second < 100 := by omega
  have hdivider (rest : List Char) : readDivider ('T' :: rest) = some rest := rfl
  have hoffset : readOffset (trimStart isBlank ['Z']) = some (0, []) := rfl
  unfold ofRfc3339?
  simp only [String.toList_ofList, List.append_assoc, List.cons_append]
  refine Option.bind_eq_some_iff.2 ⟨_, readYear_yearDigits year _, ?_⟩
  refine Option.bind_eq_some_iff.2 ⟨_, expect_cons rfl _, ?_⟩
  refine Option.bind_eq_some_iff.2 ⟨_, twoDigits_padded hmonth _, ?_⟩
  refine Option.bind_eq_some_iff.2 ⟨_, expect_cons rfl _, ?_⟩
  refine Option.bind_eq_some_iff.2 ⟨_, twoDigits_padded hday _, ?_⟩
  refine Option.bind_eq_some_iff.2 ⟨_, hdivider _, ?_⟩
  refine Option.bind_eq_some_iff.2 ⟨_, twoDigits_padded hhour _, ?_⟩
  refine Option.bind_eq_some_iff.2 ⟨_, expect_cons rfl _, ?_⟩
  refine Option.bind_eq_some_iff.2 ⟨_, twoDigits_padded hminute _, ?_⟩
  refine Option.bind_eq_some_iff.2 ⟨_, expect_cons rfl _, ?_⟩
  refine Option.bind_eq_some_iff.2 ⟨_, twoDigits_padded hsecond _, ?_⟩
  refine Option.bind_eq_some_iff.2 ⟨_, hfraction, ?_⟩
  refine Option.bind_eq_some_iff.2 ⟨_, hoffset, ?_⟩
  have ht : (⟨(⟨year, month, day⟩ : Date).toDays * secondsPerDay + hour * 3600 + minute * 60 +
      ((if second = 60 then (59, n + nanosPerSecond) else (second, n)).1 : Nat) - 0,
      (if second = 60 then (59, n + nanosPerSecond) else (second, n)).2⟩ : Instant) = t := by
    obtain ⟨seconds, nanos⟩ := t
    simp only at hseconds hnanos
    rw [hseconds, hnanos]
    split <;> simp
  have hguard {p : Prop} [Decidable p] (hp : p) : guard p = some () :=
    (Option.guard_eq_some' ()).2 hp
  refine Option.bind_eq_some_iff.2 ⟨_, hguard rfl, ?_⟩
  refine Option.bind_eq_some_iff.2 ⟨_, hguard ⟨hyear.1, hyear.2, hdate⟩, ?_⟩
  refine Option.bind_eq_some_iff.2 ⟨_, hguard htime, ?_⟩
  refine Option.bind_eq_some_iff.2 ⟨_, hguard (by decide), ?_⟩
  exact Option.bind_eq_some_iff.2 ⟨_, hguard (ht ▸ hread), congrArg some ht⟩

/-- What is read is an instant that there is. -/
theorem isValid_of_ofRfc3339 {text : String} {t : Instant} (h : ofRfc3339? text = some t) :
    t.IsValid := by
  unfold ofRfc3339? at h
  obtain ⟨⟨year, _⟩, -, h⟩ := Option.bind_eq_some_iff.1 h
  obtain ⟨_, -, h⟩ := Option.bind_eq_some_iff.1 h
  obtain ⟨⟨month, _⟩, -, h⟩ := Option.bind_eq_some_iff.1 h
  obtain ⟨_, -, h⟩ := Option.bind_eq_some_iff.1 h
  obtain ⟨⟨day, _⟩, -, h⟩ := Option.bind_eq_some_iff.1 h
  obtain ⟨_, -, h⟩ := Option.bind_eq_some_iff.1 h
  obtain ⟨⟨hour, _⟩, -, h⟩ := Option.bind_eq_some_iff.1 h
  obtain ⟨_, -, h⟩ := Option.bind_eq_some_iff.1 h
  obtain ⟨⟨minute, _⟩, -, h⟩ := Option.bind_eq_some_iff.1 h
  obtain ⟨_, -, h⟩ := Option.bind_eq_some_iff.1 h
  obtain ⟨⟨second, _⟩, -, h⟩ := Option.bind_eq_some_iff.1 h
  obtain ⟨⟨nanos, _⟩, hnanos, h⟩ := Option.bind_eq_some_iff.1 h
  obtain ⟨⟨offset, _⟩, hoffset, h⟩ := Option.bind_eq_some_iff.1 h
  obtain ⟨_, -, h⟩ := Option.bind_eq_some_iff.1 h
  obtain ⟨_, -, h⟩ := Option.bind_eq_some_iff.1 h
  obtain ⟨_, -, h⟩ := Option.bind_eq_some_iff.1 h
  obtain ⟨_, -, h⟩ := Option.bind_eq_some_iff.1 h
  obtain ⟨_, hyear, ht⟩ := Option.bind_eq_some_iff.1 h
  have hfraction := readFraction_lt hnanos
  have hminutes := readOffset_mod hoffset
  have hvalue : t = ⟨(⟨year, month, day⟩ : Date).toDays * secondsPerDay + hour * 3600 +
      minute * 60 + ((if second = 60 then (59, nanos + nanosPerSecond) else (second, nanos)).1 : Nat) -
        offset, (if second = 60 then (59, nanos + nanosPerSecond) else (second, nanos)).2⟩ :=
    (Option.some.inj ht).symm
  have hrange : leastYear ≤ t.date.year ∧ t.date.year ≤ mostYear := by
    rw [hvalue]
    exact (Option.guard_eq_some' _).1 hyear
  by_cases hsecond : second = 60
  · rw [if_pos hsecond] at hvalue
    refine ⟨?_, fun _ => ?_, hrange⟩
    · rw [hvalue]
      simp only
      omega
    · rw [hvalue]
      simp only
      unfold secondsPerDay
      omega
  · rw [if_neg hsecond] at hvalue
    refine ⟨?_, fun hleap => ?_, hrange⟩
    · rw [hvalue]
      simp only
      omega
    · rw [hvalue] at hleap
      exact absurd hfraction (Nat.not_lt.2 hleap)

/-- An instant is read up to its fraction digits. -/
theorem ofRfc3339_writeWith {fraction : Nat → List Char} {t : Instant} {n : Nat} (h : t.IsValid)
    (hfraction : readFraction (fraction (t.nanos % nanosPerSecond) ++ ['Z']) = some (n, ['Z'])) :
    ofRfc3339? (writeWith fraction t) =
      some ⟨t.seconds, n + t.nanos / nanosPerSecond * nanosPerSecond⟩ := by
  have hday := secondOfDay_lt t
  have hsum := toDays_date t
  have hnanos := h.nanos
  have hminute : t.secondOfDay % 60 = 59 ↔ t.seconds % 60 = 59 := by
    unfold secondsPerDay at hsum
    omega
  by_cases hleap : nanosPerSecond ≤ t.nanos
  · have hlast := hminute.2 (h.leap hleap)
    have hone : t.nanos / nanosPerSecond = 1 := by
      unfold nanosPerSecond at *
      omega
    have hpast : t.nanos % nanosPerSecond = t.nanos - nanosPerSecond := by
      unfold nanosPerSecond at *
      omega
    rw [hpast] at hfraction
    unfold writeWith
    simp only [if_pos hleap, hlast]
    refine ofRfc3339_parts (Date.isValid_ofDays _) ⟨by omega, by omega, by omega⟩ hfraction ?_ ?_
      h.year h.year
    · change t.seconds = t.date.toDays * secondsPerDay + (t.secondOfDay / 3600 : Nat) * 3600 +
        (t.secondOfDay / 60 % 60 : Nat) * 60 + (59 : Nat)
      omega
    · rw [hone, if_pos rfl, Nat.one_mul]
  · have hzero : t.nanos / nanosPerSecond = 0 := Nat.div_eq_of_lt (Nat.lt_of_not_le hleap)
    have hwithin : t.nanos % nanosPerSecond = t.nanos := Nat.mod_eq_of_lt (Nat.lt_of_not_le hleap)
    have hsecond : t.secondOfDay % 60 ≠ 60 := by omega
    rw [hwithin] at hfraction
    unfold writeWith
    simp only [if_neg hleap, Nat.add_zero]
    refine ofRfc3339_parts (Date.isValid_ofDays _) ⟨by omega, by omega, by omega⟩ hfraction ?_ ?_
      h.year h.year
    · rw [if_neg hsecond]
      change t.seconds = t.date.toDays * secondsPerDay + (t.secondOfDay / 3600 : Nat) * 3600 +
        (t.secondOfDay / 60 % 60 : Nat) * 60 + (t.secondOfDay % 60 : Nat)
      omega
    · rw [if_neg hsecond, hzero]
      simp

/-- An instant is read from its exact text. -/
theorem ofRfc3339_rfc3339 {t : Instant} (h : t.IsValid) : ofRfc3339? t.rfc3339 = some t := by
  have hread := @ofRfc3339_writeWith fractionDigits t _ h
    (readFraction_fractionDigits (Nat.mod_lt _ (by decide)))
  have hnanos : t.nanos % nanosPerSecond + t.nanos / nanosPerSecond * nanosPerSecond = t.nanos := by
    unfold nanosPerSecond
    omega
  rw [hnanos] at hread
  exact hread

/-- The instant that is read from its text with three fraction digits is cut to milliseconds. -/
theorem ofRfc3339_rfc3339Millis {t : Instant} (h : t.IsValid) :
    ofRfc3339? t.rfc3339Millis = some t.truncateToMillis := by
  have hmillis : t.nanos % nanosPerSecond / 1000000 < 1000 := by
    unfold nanosPerSecond
    omega
  have hnanos : t.nanos % nanosPerSecond / 1000000 * 1000000 +
      t.nanos / nanosPerSecond * nanosPerSecond = t.nanos / 1000000 * 1000000 := by
    unfold nanosPerSecond
    omega
  have hread := @ofRfc3339_writeWith (fun nanos => '.' :: padded 3 (nanos / 1000000)) t _ h
    (readFraction_millis hmillis)
  rw [hnanos] at hread
  exact hread

end Instant

end CloudDirector.Time
