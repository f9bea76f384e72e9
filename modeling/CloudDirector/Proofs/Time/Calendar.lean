import CloudDirector.Time.Calendar

/-!
# Dates and counts of days

Every count of days has a date of the calendar, and the count of that date is the count again.
Within an era of 400 years a day is found by its year and its day of the year, years being taken to
begin in March; centuries, and within them cycles of four years, tell how many leap days precede it.
-/
namespace CloudDirector.Time

def yearOfEra (d : Int) : Int := (d - d / 1460 + d / 36524 - d / 146096) / 365

def dayOfYear (d : Int) : Int := d - (365 * yearOfEra d + yearOfEra d / 4 - yearOfEra d / 100)

def monthOfDay (doy : Int) : Int := (5 * doy + 2) / 153

def daysBefore (month : Int) : Int := (153 * month + 2) / 5

section Era

variable {d : Int}

theorem yearOfEra_bounds (hlow : 0 ≤ d) (hhigh : d ≤ 146096) :
    0 ≤ yearOfEra d ∧ yearOfEra d ≤ 399 := by
  unfold yearOfEra
  omega

/-- The century of a year is that of its days, but for the last day of an era. -/
private theorem century_yearOfEra (hlow : 0 ≤ d) (hhigh : d ≤ 146096) :
    yearOfEra d / 100 = d / 36524 - d / 146096 := by
  have hcases : d / 36524 = 0 ∨ d / 36524 = 1 ∨ d / 36524 = 2 ∨ d / 36524 = 3 ∨ d / 36524 = 4 := by
    omega
  unfold yearOfEra
  rcases hcases with h | h | h | h | h <;> omega

/-- A cycle of 1460 days begins at most one year early. -/
private theorem cycle_yearOfEra (hlow : 0 ≤ d) (hhigh : d ≤ 146096) :
    yearOfEra d - 4 * (d / 1460) = -1 ∨ yearOfEra d - 4 * (d / 1460) = 0 ∨
      yearOfEra d - 4 * (d / 1460) = 1 ∨ yearOfEra d - 4 * (d / 1460) = 2 ∨
        yearOfEra d - 4 * (d / 1460) = 3 := by
  unfold yearOfEra
  omega

theorem dayOfYear_bounds (hlow : 0 ≤ d) (hhigh : d ≤ 146096) :
    0 ≤ dayOfYear d ∧ dayOfYear d ≤ 365 := by
  have hcentury := century_yearOfEra hlow hhigh
  have hcycle := cycle_yearOfEra hlow hhigh
  unfold dayOfYear
  unfold yearOfEra at *
  rcases hcycle with h | h | h | h | h <;> omega

/-- A year with 366 days ends in a leap year. -/
theorem leap_of_dayOfYear (hlow : 0 ≤ d) (hhigh : d ≤ 146096) (hlast : dayOfYear d = 365) :
    yearOfEra d % 4 = 3 ∧ (yearOfEra d % 100 ≠ 99 ∨ yearOfEra d = 399) := by
  have hcentury := century_yearOfEra hlow hhigh
  have hcycle := cycle_yearOfEra hlow hhigh
  unfold dayOfYear at hlast
  unfold yearOfEra at *
  rcases hcycle with h | h | h | h | h <;> omega

end Era

theorem monthOfDay_bounds {doy : Int} (hlow : 0 ≤ doy) (hhigh : doy ≤ 365) :
    0 ≤ monthOfDay doy ∧ monthOfDay doy ≤ 11 := by
  unfold monthOfDay
  omega

theorem daysBefore_le (doy : Int) :
    daysBefore (monthOfDay doy) ≤ doy ∧ doy < daysBefore (monthOfDay doy + 1) := by
  unfold daysBefore monthOfDay
  omega

namespace Date

def fromMarch (year month day : Int) : Date :=
  if month < 10 then ⟨year, (month + 3).toNat, day.toNat⟩
  else ⟨year + 1, (month - 9).toNat, day.toNat⟩

private theorem fromMarch_eq {year month day : Int} (hlow : 0 ≤ month) (hhigh : month ≤ 11) :
    fromMarch year month day =
      ⟨if (if month < 10 then month + 3 else month - 9) ≤ 2 then year + 1 else year,
        (if month < 10 then month + 3 else month - 9).toNat, day.toNat⟩ := by
  unfold fromMarch
  by_cases hmonth : month < 10
  · have hlate : ¬ month + 3 ≤ 2 := by omega
    simp only [if_pos hmonth, if_neg hlate]
  · have hearly : month - 9 ≤ 2 := by omega
    simp only [if_neg hmonth, if_pos hearly]

def eraDay (n : Int) : Int := (n + 719468) % 146097

theorem eraDay_bounds (n : Int) : 0 ≤ eraDay n ∧ eraDay n ≤ 146096 := by
  unfold eraDay
  omega

theorem ofDays_eq (n : Int) :
    ofDays n = fromMarch (yearOfEra (eraDay n) + (n + 719468) / 146097 * 400)
      (monthOfDay (dayOfYear (eraDay n)))
      (dayOfYear (eraDay n) - daysBefore (monthOfDay (dayOfYear (eraDay n))) + 1) := by
  have hday : n + 719468 - (n + 719468) / 146097 * 146097 = eraDay n := by
    unfold eraDay
    omega
  obtain ⟨hlow, hhigh⟩ := eraDay_bounds n
  obtain ⟨hdoylow, hdoyhigh⟩ := dayOfYear_bounds hlow hhigh
  obtain ⟨hmonthlow, hmonthhigh⟩ := monthOfDay_bounds hdoylow hdoyhigh
  have hera : Int.fdiv (n + 719468) 146097 = (n + 719468) / 146097 :=
    Int.fdiv_eq_ediv_of_nonneg _ (by decide)
  rw [fromMarch_eq hmonthlow hmonthhigh]
  unfold ofDays
  simp only [hera, hday]
  rfl

theorem toDays_fromMarch {era yoe month day : Int} (hyoe : 0 ≤ yoe ∧ yoe ≤ 399)
    (hmonth : 0 ≤ month ∧ month ≤ 11) (hday : 0 ≤ day) :
    (fromMarch (yoe + era * 400) month day).toDays =
      era * 146097 + (yoe * 365 + yoe / 4 - yoe / 100 + (daysBefore month + day - 1)) - 719468 := by
  have hera : Int.fdiv (yoe + era * 400) 400 = era := by
    rw [Int.fdiv_eq_ediv_of_nonneg _ (by decide)]
    omega
  have hrest : yoe + era * 400 - era * 400 = yoe := by omega
  unfold fromMarch
  split
  · have hlate : ¬ (month + 3).toNat ≤ 2 := by omega
    have hmarch : 2 < (month + 3).toNat := by omega
    have hshift : (((month + 3).toNat : Nat) : Int) - 3 = month := by omega
    simp only [toDays, if_neg hlate, if_pos hmarch, hera, hrest, hshift, Int.toNat_of_nonneg hday,
      daysBefore]
  · have hearly : (month - 9).toNat ≤ 2 := by omega
    have hmarch : ¬ 2 < (month - 9).toNat := by omega
    have hshift : (((month - 9).toNat : Nat) : Int) + 9 = month := by omega
    have hyear : yoe + era * 400 + 1 - 1 = yoe + era * 400 := by omega
    simp only [toDays, if_pos hearly, if_neg hmarch, hyear, hera, hrest, hshift,
      Int.toNat_of_nonneg hday, daysBefore]

/-- The date of a count of days has that count. -/
theorem toDays_ofDays (n : Int) : (ofDays n).toDays = n := by
  obtain ⟨hlow, hhigh⟩ := eraDay_bounds n
  obtain ⟨hdoylow, hdoyhigh⟩ := dayOfYear_bounds hlow hhigh
  have hmonth := monthOfDay_bounds hdoylow hdoyhigh
  have hbefore := (daysBefore_le (dayOfYear (eraDay n))).1
  have hera : eraDay n = n + 719468 - (n + 719468) / 146097 * 146097 := by
    unfold eraDay
    omega
  have hyear : eraDay n = yearOfEra (eraDay n) * 365 + yearOfEra (eraDay n) / 4 -
      yearOfEra (eraDay n) / 100 + dayOfYear (eraDay n) := by
    unfold dayOfYear
    omega
  rw [ofDays_eq, toDays_fromMarch (yearOfEra_bounds hlow hhigh) hmonth (by omega)]
  omega

/-- A day of a month that has it makes a date; a year that begins in March ends in February. -/
theorem isValid_fromMarch {year month day : Int} (hmonth : 0 ≤ month ∧ month ≤ 11)
    (hday : 1 ≤ day) (hlength : day ≤ daysBefore (month + 1) - daysBefore month)
    (hleap : month = 11 → day ≤ 28 ∨ day = 29 ∧ isLeapYear (year + 1) = true) :
    (fromMarch year month day).isValid = true := by
  have hcases : month = 0 ∨ month = 1 ∨ month = 2 ∨ month = 3 ∨ month = 4 ∨ month = 5 ∨ month = 6 ∨
      month = 7 ∨ month = 8 ∨ month = 9 ∨ month = 10 ∨ month = 11 := by omega
  unfold daysBefore at hlength
  rcases hcases with rfl | rfl | rfl | rfl | rfl | rfl | rfl | rfl | rfl | rfl | rfl | rfl
  case inr.inr.inr.inr.inr.inr.inr.inr.inr.inr.inr =>
    have hbound : day.toNat ≤ daysInMonth (year + 1) 2 := by
      unfold daysInMonth
      rw [if_pos rfl]
      rcases hleap rfl with hshort | ⟨rfl, hyear⟩
      · split <;> omega
      · rw [if_pos hyear]
        decide
    have hpositive : 1 ≤ day.toNat := by omega
    simp [fromMarch, isValid, hbound, hpositive]
  all_goals
    simp [fromMarch, isValid, daysInMonth]
    omega

/-- Each count of days has a date of the calendar. -/
theorem isValid_ofDays (n : Int) : (ofDays n).isValid = true := by
  obtain ⟨hlow, hhigh⟩ := eraDay_bounds n
  obtain ⟨hdoylow, hdoyhigh⟩ := dayOfYear_bounds hlow hhigh
  obtain ⟨hbefore, hafter⟩ := daysBefore_le (dayOfYear (eraDay n))
  rw [ofDays_eq]
  refine isValid_fromMarch (monthOfDay_bounds hdoylow hdoyhigh) (by omega) (by omega) fun hlast => ?_
  rw [hlast] at hbefore ⊢
  have hfebruary : daysBefore 11 = 337 := by decide
  by_cases hend : dayOfYear (eraDay n) = 365
  · obtain ⟨hcycle, hcentury⟩ := leap_of_dayOfYear hlow hhigh hend
    have hyear := yearOfEra_bounds hlow hhigh
    refine .inr ⟨by omega, ?_⟩
    simp only [isLeapYear, Bool.and_eq_true, Bool.or_eq_true, beq_iff_eq, bne_iff_ne]
    omega
  · exact .inl (by omega)

end Date

end CloudDirector.Time
