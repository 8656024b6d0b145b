import DesignHistory.Instant

/-!
# Days and dates

A day number is split into periods of 400 years, centuries, groups of four years, years and the
day of a year that starts in March.  The parts put together give the number again, and they make a
day that the calendar has: a year has a 366th day only if the February that ends it has 29 days.

## Main definitions

* `CivilDate.ofYearDay`: the date of a day in a year that starts in March.
* `CivilDate.leapDays`: the leap days before a year that starts in March.

## Main statements

* `CivilDate.exists_ofDayNumber_eq`: the parts of a day number.
* `CivilDate.dayNumber_ofDayNumber`: a day number is the one of its date.
* `CivilDate.valid_ofDayNumber`: the date of a day number is in the calendar.
* `CivilDate.year_bounds`: days in order have years in order.
-/

namespace DesignHistory.CivilDate

/-! ### Within a year -/

/-- The date of a day, counted from zero, in the year that starts in March of a given year.  Years
begin in March so that a leap day is the last day of its year. -/
def ofYearDay (year : Int) (dayOfYear : Nat) : CivilDate :=
  let month := (5 * dayOfYear + 2) / 153
  let day := dayOfYear - daysBeforeMonth month + 1
  if month < 10 then ⟨year, month + 3, day⟩ else ⟨year + 1, month - 9, day⟩

/-- The days of whole years from March to March, from the start of a period of 400 years on. -/
def daysBeforeYear (yearOfEra : Int) : Int := yearOfEra * 365 + yearOfEra / 4 - yearOfEra / 100

/-- The number of a day from March on counts from the same year. -/
theorem dayNumber_of_two_lt {month : Nat} (h : 2 < month) (year : Int) (day : Nat) :
    (CivilDate.mk year month day).dayNumber
      = year / 400 * daysPerEra + daysBeforeYear (year % 400)
        + (daysBeforeMonth (month - 3) + (day - 1) : Nat) := by
  unfold dayNumber daysBeforeYear
  rw [if_pos h, if_pos h]

/-- The number of a day in January or February counts from the year before. -/
theorem dayNumber_of_le_two {month : Nat} (h : month ≤ 2) (year : Int) (day : Nat) :
    (CivilDate.mk (year + 1) month day).dayNumber
      = year / 400 * daysPerEra + daysBeforeYear (year % 400)
        + (daysBeforeMonth (month + 9) + (day - 1) : Nat) := by
  unfold dayNumber daysBeforeYear
  rw [if_neg (Nat.not_lt.2 h), if_neg (Nat.not_lt.2 h), Int.add_sub_cancel]

/-- The number of a day in a year. -/
theorem dayNumber_ofYearDay {dayOfYear : Nat} (h : dayOfYear ≤ 365) (year : Int) :
    (ofYearDay year dayOfYear).dayNumber
      = year / 400 * daysPerEra + daysBeforeYear (year % 400) + dayOfYear := by
  have hstart : daysBeforeMonth ((5 * dayOfYear + 2) / 153) ≤ dayOfYear := by
    rw [daysBeforeMonth]
    omega
  dsimp only [ofYearDay]
  split
  · rw [dayNumber_of_two_lt (by omega), Nat.add_sub_cancel, Nat.add_sub_cancel]
    omega
  · rw [dayNumber_of_le_two (by omega), Nat.sub_add_cancel (by omega), Nat.add_sub_cancel]
    omega

theorem day_le {date : CivilDate} (h : date.Valid) : date.day ≤ 31 := by
  have hmax : daysInMonth date.year date.month ≤ 31 := by
    unfold daysInMonth
    split
    · split <;> decide
    · split <;> decide
  exact Nat.le_trans h.2.2.2 hmax

theorem daysInMonth_eq {month : Nat} (h : month ≠ 2) (year year' : Int) :
    daysInMonth year month = daysInMonth year' month := by
  rw [daysInMonth, if_neg h, daysInMonth, if_neg h]

/-- The months from March to January end with their last days. -/
theorem day_le_daysInMonth : ∀ dayOfYear < 366, (5 * dayOfYear + 2) / 153 < 11 →
    dayOfYear - daysBeforeMonth ((5 * dayOfYear + 2) / 153) + 1
      ≤ daysInMonth 0 (if (5 * dayOfYear + 2) / 153 < 10 then (5 * dayOfYear + 2) / 153 + 3
        else (5 * dayOfYear + 2) / 153 - 9) := by
  decide +kernel

/-- A day of a year is in the calendar, the 366th one if there is a leap day at its end.  The last
month of such a year is February, the only one whose length depends on the year. -/
theorem valid_ofYearDay {dayOfYear : Nat} (h : dayOfYear ≤ 365) {year : Int}
    (hleap : dayOfYear = 365 → isLeapYear (year + 1) = true) :
    (ofYearDay year dayOfYear).Valid := by
  have hvalid : ∀ {y : Int} {m d : Nat}, 1 ≤ m → m ≤ 12 → 1 ≤ d → d ≤ daysInMonth y m →
      (CivilDate.mk y m d).Valid := fun h₁ h₂ h₃ h₄ => ⟨h₁, h₂, h₃, h₄⟩
  have hdays := day_le_daysInMonth dayOfYear (by omega)
  dsimp only [ofYearDay]
  split
  · rename_i hmonth
    rw [if_pos hmonth] at hdays
    refine hvalid (by omega) (by omega) (by omega) ?_
    rw [daysInMonth_eq (by omega) year 0]
    exact hdays (by omega)
  · rename_i hmonth
    rw [if_neg hmonth] at hdays
    refine hvalid (by omega) (by omega) (by omega) ?_
    by_cases hjanuary : (5 * dayOfYear + 2) / 153 < 11
    · rw [daysInMonth_eq (by omega) (year + 1) 0]
      exact hdays hjanuary
    · -- the last month is February, and its 29th day is the 366th of the year
      have heleven : (5 * dayOfYear + 2) / 153 = 11 := by omega
      rw [heleven, daysInMonth, if_pos rfl, daysBeforeMonth]
      split
      · omega
      · rename_i hcommon
        have hlast : dayOfYear ≠ 365 := fun hlast => hcommon (hleap hlast)
        omega

/-! ### Years -/

/-- The parts of a day number: of four centuries only the last one has a day more, of 25 groups of
four years only the last one may have a day less, and of four years only the last one may have a day
more.  All that is known about the calendar is derived from these bounds. -/
theorem exists_ofDayNumber_eq (n : Int) :
    ∃ (era : Int) (century quad year dayOfYear : Nat),
      century ≤ 3 ∧ quad ≤ 24 ∧ year ≤ 3 ∧ dayOfYear ≤ 365
        ∧ (dayOfYear = 365 → year = 3 ∧ (quad = 24 → century = 3))
        ∧ n = era * daysPerEra + (century * 36524 + quad * 1461 + year * 365 + dayOfYear : Nat)
        ∧ ofDayNumber n
          = ofYearDay (era * 400 + (century * 100 + quad * 4 + year : Nat)) dayOfYear := by
  have hera : (0 : Int) < daysPerEra := by decide
  have hlow := Int.emod_nonneg n (Int.ne_of_gt hera)
  have hhigh := Int.emod_lt_of_pos n hera
  have hperiod : daysPerEra = 146097 := rfl
  refine ⟨n / daysPerEra, _, _, _, _, ?_, ?_, ?_, ?_, ?_, ?_, rfl⟩
  all_goals generalize hday : (n % daysPerEra).toNat = day
  · omega
  all_goals generalize hcentury : min (day / 36524) 3 = century
  all_goals generalize hrest : day - century * 36524 = rest
  · omega
  all_goals generalize hquad : rest / 1461 = quad
  all_goals generalize hrest' : rest - quad * 1461 = rest'
  · omega
  all_goals generalize hyear : min (rest' / 365) 3 = year
  · omega
  · omega
  · have hsplit := Int.mul_ediv_add_emod n daysPerEra
    rw [Int.mul_comm] at hsplit
    omega

/-- **A day number is the one of its date.** It holds for all days, before the first year as
well. -/
theorem dayNumber_ofDayNumber (n : Int) : (ofDayNumber n).dayNumber = n := by
  obtain ⟨era, century, quad, year, dayOfYear, hcentury, hquad, hyear, hday, -, hn, hdate⟩ :=
    exists_ofDayNumber_eq n
  rw [hdate, dayNumber_ofYearDay hday, daysBeforeYear, hn, daysPerEra]
  omega

/-- The date of a day number is in the calendar. -/
theorem valid_ofDayNumber (n : Int) : (ofDayNumber n).Valid := by
  obtain ⟨era, century, quad, year, dayOfYear, hcentury, hquad, hyear, hday, hleap, -, hdate⟩ :=
    exists_ofDayNumber_eq n
  rw [hdate]
  refine valid_ofYearDay hday fun hlast => ?_
  obtain ⟨rfl, hend⟩ := hleap hlast
  simp only [isLeapYear, Bool.and_eq_true, Bool.or_eq_true, beq_iff_eq, bne_iff_ne, ne_eq]
  omega

/-- The leap days before March of a year, from the first of year 0 on; negative before it. -/
def leapDays (year : Int) : Int := year / 4 - year / 100 + year / 400

theorem daysBeforeYear_eq (year : Int) :
    year / 400 * daysPerEra + daysBeforeYear (year % 400) = 365 * year + leapDays year := by
  unfold daysBeforeYear leapDays daysPerEra
  omega

theorem leapDays_le {year : Int} (h : year < 0) : leapDays year ≤ -1 := by
  unfold leapDays
  omega

theorem le_leapDays {year : Int} (h : 9999 ≤ year) : 2424 ≤ leapDays year := by
  unfold leapDays
  omega

/-- A day between the first one of year 0 and the last one of year 9999 has one of these years.
These are the years that are written with four digits. -/
theorem year_bounds {date : CivilDate} (hvalid : date.Valid)
    (hlow : (CivilDate.mk 0 1 1).dayNumber ≤ date.dayNumber)
    (hhigh : date.dayNumber ≤ (CivilDate.mk 9999 12 31).dayNumber) :
    0 ≤ date.year ∧ date.year ≤ 9999 := by
  have hday := day_le hvalid
  obtain ⟨hmonth, hmonth', -, -⟩ := hvalid
  obtain ⟨year, month, day⟩ := date
  dsimp only at hmonth hmonth' hday ⊢
  have hfirst : (CivilDate.mk 0 1 1).dayNumber = -60 := by decide
  have hlast : (CivilDate.mk 9999 12 31).dayNumber = 3652364 := by decide
  rw [hfirst] at hlow
  rw [hlast] at hhigh
  by_cases htwo : 2 < month
  · have hmonths : daysBeforeMonth (month - 3) ≤ 275 := by
      unfold daysBeforeMonth
      omega
    have hbefore := @leapDays_le year
    have hafter := @le_leapDays year
    rw [dayNumber_of_two_lt htwo, daysBeforeYear_eq] at hlow hhigh
    omega
  -- January and February belong to the year that started in the March before
  · obtain ⟨before, rfl⟩ : ∃ before, year = before + 1 := ⟨year - 1, by omega⟩
    have hmonths : 306 ≤ daysBeforeMonth (month + 9) ∧ daysBeforeMonth (month + 9) ≤ 337 := by
      unfold daysBeforeMonth
      omega
    have hbefore := @leapDays_le before
    have hafter := @le_leapDays before
    rw [dayNumber_of_le_two (by omega), daysBeforeYear_eq] at hlow hhigh
    omega

end DesignHistory.CivilDate
