import Mathlib

/-!
# Months of the Gregorian calendar

A month is numbered through all years: the twelve months of a year follow those of the year before.
A day is numbered from the first of January 1970. A month starts on a day, the next one starts
behind its last day, and every day lies in one month.

Four hundred years have 4800 months and 146097 days. A month starts so close to that mean that a
day's month is the one the mean gives, or the one before.
-/

namespace Months

/-- A year with a day more. -/
def isLeap (year : Int) : Bool :=
  decide (year % 4 = 0) && (decide (year % 100 ≠ 0) || decide (year % 400 = 0))

/-- The days in front of a year, from the year 1 on. -/
def daysBeforeYear (year : Int) : Int :=
  (year - 1) * 365 + (year - 1) / 4 - (year - 1) / 100 + (year - 1) / 400

/-- The lengths of the months of a year that is no leap year. -/
def lengths : List Int := [31, 28, 31, 30, 31, 30, 31, 31, 30, 31, 30, 31]

/-- The days in front of each month in such a year. -/
def daysBefore : List Int := [0, 31, 59, 90, 120, 151, 181, 212, 243, 273, 304, 334]

/-- The number of days of a month. -/
def monthLength (month : Int) : Int :=
  lengths.getD (month % 12).toNat 0 + if month % 12 = 1 ∧ isLeap (month / 12) then 1 else 0

/-- The first day of a month. -/
def monthStart (month : Int) : Int :=
  daysBeforeYear (month / 12) + daysBefore.getD (month % 12).toNat 0 +
    (if 1 < month % 12 ∧ isLeap (month / 12) then 1 else 0) - 719162

/-- The month of a day. -/
def monthOf (day : Int) : Int :=
  let guess := (4800 * day + 3453800000) / 146097
  if monthStart guess ≤ day then guess else guess - 1

/-! ## Where months start -/

theorem month_cases (month : Int) :
    month % 12 = 0 ∨ month % 12 = 1 ∨ month % 12 = 2 ∨ month % 12 = 3 ∨ month % 12 = 4 ∨
      month % 12 = 5 ∨ month % 12 = 6 ∨ month % 12 = 7 ∨ month % 12 = 8 ∨ month % 12 = 9 ∨
      month % 12 = 10 ∨ month % 12 = 11 := by
  omega

/-- A year has 365 days, and a leap year one more. -/
theorem daysBeforeYear_next (year : Int) :
    daysBeforeYear (year + 1) = daysBeforeYear year + 365 + if isLeap year then 1 else 0 := by
  unfold daysBeforeYear isLeap
  by_cases fourth : year % 4 = 0
  · by_cases century : year % 100 = 0
    · by_cases quarter : year % 400 = 0
      · simp [fourth, century, quarter]
        omega
      · simp [fourth, century, quarter]
        omega
    · simp [fourth, century]
      omega
  · simp [fourth]
    omega

theorem monthLength_bounds (month : Int) : 28 ≤ monthLength month ∧ monthLength month ≤ 31 := by
  unfold monthLength
  rcases month_cases month with h | h | h | h | h | h | h | h | h | h | h | h <;> rw [h] <;>
    simp [lengths]
  -- only February depends on the year
  split
  · omega
  · omega

/-- A month starts behind the last day of the one before. -/
theorem monthStart_next (month : Int) :
    monthStart (month + 1) = monthStart month + monthLength month := by
  unfold monthStart monthLength
  by_cases december : month % 12 = 11
  · have next : (month + 1) % 12 = 0 := by omega
    have year : (month + 1) / 12 = month / 12 + 1 := by omega
    rw [next, year, december, daysBeforeYear_next]
    simp [daysBefore, lengths]
    omega
  · have next : (month + 1) % 12 = month % 12 + 1 := by omega
    have year : (month + 1) / 12 = month / 12 := by omega
    rw [next, year]
    rcases month_cases month with h | h | h | h | h | h | h | h | h | h | h | h <;> rw [h] <;>
      simp [daysBefore, lengths] <;> omega

theorem monthStart_strictMono : StrictMono monthStart := by
  apply strictMono_int_of_lt_succ
  intro month
  have next := monthStart_next month
  have length := (monthLength_bounds month).1
  rw [next]
  omega

/-- A year begins close to the mean. -/
theorem daysBeforeYear_mean (year : Int) :
    1753164 * (year - 1) - 8400 ≤ 4800 * daysBeforeYear year ∧
      4800 * daysBeforeYear year ≤ 1753164 * (year - 1) + 4800 := by
  unfold daysBeforeYear
  omega

/-- A month starts close to the mean. -/
theorem monthStart_mean (month : Int) :
    146097 * month - 3453800000 ≤ 4800 * monthStart month ∧
      4800 * monthStart month ≤ 146097 * month - 3453800000 + 146097 := by
  have mean := daysBeforeYear_mean (month / 12)
  have leapDay : 0 ≤ (if 1 < month % 12 ∧ isLeap (month / 12) then 1 else 0 : Int) ∧
      (if 1 < month % 12 ∧ isLeap (month / 12) then 1 else 0 : Int) ≤ 1 := by
    split <;> omega
  have parts : month = 12 * (month / 12) + month % 12 := by omega
  unfold monthStart
  revert mean leapDay parts
  generalize (if 1 < month % 12 ∧ isLeap (month / 12) then 1 else 0 : Int) = leapDay
  generalize daysBeforeYear (month / 12) = years
  rcases month_cases month with h | h | h | h | h | h | h | h | h | h | h | h <;> rw [h] <;>
    simp [daysBefore] <;> omega

/-- A day lies in its month. -/
theorem monthOf_spec (day : Int) :
    monthStart (monthOf day) ≤ day ∧ day < monthStart (monthOf day + 1) := by
  unfold monthOf
  dsimp only
  set guess := (4800 * day + 3453800000) / 146097 with meant
  have notBefore := (monthStart_mean (guess + 1)).1
  have notBehind := (monthStart_mean (guess - 1)).2
  split
  · next started =>
    exact ⟨started, by omega⟩
  · next coming =>
    rw [Int.sub_add_cancel]
    exact ⟨by omega, by omega⟩

theorem monthOf_unique {day month : Int} (begun : monthStart month ≤ day)
    (notOver : day < monthStart (month + 1)) : monthOf day = month := by
  obtain ⟨started, ends⟩ := monthOf_spec day
  have notBefore : month < monthOf day + 1 :=
    monthStart_strictMono.lt_iff_lt.mp (lt_of_le_of_lt begun ends)
  have notBehind : monthOf day < month + 1 :=
    monthStart_strictMono.lt_iff_lt.mp (lt_of_le_of_lt started notOver)
  omega

end Months
