set_option autoImplicit false

/-!
# The proleptic Gregorian calendar

Years 1 to 9999. Days are numbered from 1 January of year 1, which is day 0 and a Monday.
A date and its day number determine each other.
-/
namespace CivilRange

def lastYear : Nat := 9999

def isLeap (year : Nat) : Bool :=
  year % 4 == 0 && (year % 100 != 0 || year % 400 == 0)

def monthLength (year month : Nat) : Nat :=
  match month with
  | 2 => if isLeap year then 29 else 28
  | 4 | 6 | 9 | 11 => 30
  | _ => 31

def daysBeforeYear (year : Nat) : Nat :=
  365 * (year - 1) + (year - 1) / 4 - (year - 1) / 100 + (year - 1) / 400

def daysBeforeMonth (year : Nat) : Nat → Nat
  | 0 => 0
  | 1 => 0
  | month + 2 => daysBeforeMonth year (month + 1) + monthLength year (month + 1)

/-- The number of days in years 1 to 9999. -/
def dayCount : Nat := 3652059

/-- 400 years have 146097 days; the estimate from that ratio is at most one year off. -/
def yearOfDay (day : Nat) : Nat :=
  let guess := day * 400 / 146097 + 1
  if day < daysBeforeYear guess then guess - 1
  else if daysBeforeYear (guess + 1) ≤ day then guess + 1
  else guess

/-- The latest month up to `bound` that has begun by day `dayOfYear` of `year`, counted from 0. -/
def monthUpTo (year dayOfYear : Nat) : (bound : Nat) → Nat
  | 0 => 1
  | month + 1 =>
    if daysBeforeMonth year (month + 1) ≤ dayOfYear then month + 1
    else monthUpTo year dayOfYear month

def ValidDate (year month day : Nat) : Prop :=
  (1 ≤ year ∧ year ≤ lastYear) ∧ (1 ≤ month ∧ month ≤ 12) ∧ 1 ≤ day ∧ day ≤ monthLength year month

instance (year month day : Nat) : Decidable (ValidDate year month day) :=
  inferInstanceAs (Decidable (_ ∧ _))

@[ext] structure Date where
  year : Nat
  month : Nat
  day : Nat
  valid : ValidDate year month day
deriving DecidableEq

def Date.dayNumber (date : Date) : Nat :=
  daysBeforeYear date.year + daysBeforeMonth date.year date.month + (date.day - 1)

/-- Days since Monday. -/
def Date.weekday (date : Date) : Nat := date.dayNumber % 7

theorem monthLength_pos (year month : Nat) : 1 ≤ monthLength year month := by
  unfold monthLength
  split
  · split <;> decide
  all_goals decide

theorem isLeap_iff (year : Nat) :
    isLeap year = true ↔ year % 4 = 0 ∧ (year % 100 ≠ 0 ∨ year % 400 = 0) := by
  simp [isLeap]

theorem daysBeforeMonth_end (year : Nat) :
    daysBeforeMonth year 13 = if isLeap year then 366 else 365 := by
  have february : daysBeforeMonth year 13 = 31 + monthLength year 2 + 306 := rfl
  cases h : isLeap year <;> simp [february, monthLength, h]

theorem daysBeforeYear_succ (year : Nat) (h : 1 ≤ year) :
    daysBeforeYear (year + 1) = daysBeforeYear year + daysBeforeMonth year 13 := by
  obtain ⟨n, rfl⟩ := Nat.exists_eq_add_of_le' h
  have leap := isLeap_iff (n + 1)
  have fours : (n + 1) / 4 = n / 4 + if (n + 1) % 4 = 0 then 1 else 0 := by split <;> omega
  have hundreds : (n + 1) / 100 = n / 100 + if (n + 1) % 100 = 0 then 1 else 0 := by
    split <;> omega
  have cycles : (n + 1) / 400 = n / 400 + if (n + 1) % 400 = 0 then 1 else 0 := by split <;> omega
  have small : n / 100 ≤ n := Nat.div_le_self n 100
  rw [daysBeforeMonth_end, daysBeforeYear, daysBeforeYear]
  simp only [Nat.add_sub_cancel, fours, hundreds, cycles]
  by_cases h4 : (n + 1) % 4 = 0 <;> by_cases h100 : (n + 1) % 100 = 0 <;>
    by_cases h400 : (n + 1) % 400 = 0 <;> simp [leap, h4, h100, h400] <;> omega

theorem daysBeforeYear_mono {a b : Nat} (h : a ≤ b) : daysBeforeYear a ≤ daysBeforeYear b := by
  induction h with
  | refl => exact Nat.le_refl _
  | @step n _ ih =>
    cases n with
    | zero => simpa [daysBeforeYear] using ih
    | succ n =>
      rw [daysBeforeYear_succ (n + 1) (by omega)]
      omega

theorem daysBeforeMonth_succ (year month : Nat) (h : 1 ≤ month) :
    daysBeforeMonth year (month + 1) = daysBeforeMonth year month + monthLength year month := by
  obtain ⟨n, rfl⟩ := Nat.exists_eq_add_of_le' h
  rfl

theorem daysBeforeMonth_mono (year : Nat) {a b : Nat} (h : a ≤ b) :
    daysBeforeMonth year a ≤ daysBeforeMonth year b := by
  induction h with
  | refl => exact Nat.le_refl _
  | @step n _ ih =>
    cases n with
    | zero => simpa [daysBeforeMonth] using ih
    | succ n => exact Nat.le_trans ih (Nat.le_add_right _ _)

theorem yearOfDay_bounds (day : Nat) :
    1 ≤ yearOfDay day ∧ daysBeforeYear (yearOfDay day) ≤ day ∧
      day < daysBeforeYear (yearOfDay day + 1) := by
  have low : daysBeforeYear (day * 400 / 146097) ≤ day := by
    simp only [daysBeforeYear]
    omega
  have high : day < daysBeforeYear (day * 400 / 146097 + 3) := by
    simp only [daysBeforeYear]
    omega
  unfold yearOfDay
  dsimp only
  split
  · refine ⟨?_, low, by assumption⟩
    by_cases zero : day * 400 / 146097 = 0
    · simp_all [daysBeforeYear]
    · omega
  · split
    · exact ⟨by omega, by assumption, high⟩
    · exact ⟨by omega, by omega, by omega⟩

theorem yearOfDay_eq {year day : Nat} (lo : daysBeforeYear year ≤ day)
    (hi : day < daysBeforeYear (year + 1)) : yearOfDay day = year := by
  obtain ⟨_, below, above⟩ := yearOfDay_bounds day
  rcases Nat.lt_trichotomy (yearOfDay day) year with h | h | h
  · have := daysBeforeYear_mono (show yearOfDay day + 1 ≤ year by omega)
    omega
  · exact h
  · have := daysBeforeYear_mono (show year + 1 ≤ yearOfDay day by omega)
    omega

theorem monthUpTo_bounds (year dayOfYear bound : Nat) (pos : 1 ≤ bound)
    (h : dayOfYear < daysBeforeMonth year (bound + 1)) :
    (1 ≤ monthUpTo year dayOfYear bound ∧ monthUpTo year dayOfYear bound ≤ bound) ∧
      daysBeforeMonth year (monthUpTo year dayOfYear bound) ≤ dayOfYear ∧
      dayOfYear < daysBeforeMonth year (monthUpTo year dayOfYear bound + 1) := by
  induction bound with
  | zero => omega
  | succ bound ih =>
    by_cases begun : daysBeforeMonth year (bound + 1) ≤ dayOfYear
    · simp only [monthUpTo, begun, ↓reduceIte]
      exact ⟨⟨pos, Nat.le_refl _⟩, trivial, h⟩
    · simp only [monthUpTo, begun, ↓reduceIte]
      cases bound with
      | zero => simp [daysBeforeMonth] at begun
      | succ bound =>
        obtain ⟨⟨lo, hi⟩, rest⟩ := ih (by omega) (by omega)
        exact ⟨⟨lo, by omega⟩, rest⟩

theorem monthUpTo_eq {year dayOfYear month : Nat} (range : 1 ≤ month ∧ month ≤ 12)
    (lo : daysBeforeMonth year month ≤ dayOfYear)
    (hi : dayOfYear < daysBeforeMonth year (month + 1)) : monthUpTo year dayOfYear 12 = month := by
  have top := daysBeforeMonth_mono year (show month + 1 ≤ 13 by omega)
  obtain ⟨_, below, above⟩ :=
    monthUpTo_bounds year dayOfYear 12 (by omega) (Nat.lt_of_lt_of_le hi top)
  rcases Nat.lt_trichotomy (monthUpTo year dayOfYear 12) month with h | h | h
  · have := daysBeforeMonth_mono year (show monthUpTo year dayOfYear 12 + 1 ≤ month by omega)
    omega
  · exact h
  · have := daysBeforeMonth_mono year (show month + 1 ≤ monthUpTo year dayOfYear 12 by omega)
    omega

theorem yearOfDay_le_lastYear {day : Nat} (h : day < dayCount) : yearOfDay day ≤ lastYear := by
  obtain ⟨_, below, _⟩ := yearOfDay_bounds day
  simp only [daysBeforeYear, dayCount, lastYear] at *
  omega

theorem dayOfYear_lt (day : Nat) :
    day - daysBeforeYear (yearOfDay day) < daysBeforeMonth (yearOfDay day) 13 := by
  obtain ⟨pos, below, above⟩ := yearOfDay_bounds day
  have := daysBeforeYear_succ _ pos
  omega

namespace Date

def ofDayNumber (day : Nat) (h : day < dayCount) : Date :=
  let year := yearOfDay day
  let dayOfYear := day - daysBeforeYear year
  let month := monthUpTo year dayOfYear 12
  ⟨year, month, dayOfYear - daysBeforeMonth year month + 1, by
    obtain ⟨range, below, above⟩ :=
      monthUpTo_bounds year dayOfYear 12 (by omega) (dayOfYear_lt day)
    have length := daysBeforeMonth_succ year month range.1
    exact ⟨⟨(yearOfDay_bounds day).1, yearOfDay_le_lastYear h⟩, range, by omega,
      by simp only [month] at *; omega⟩⟩

theorem dayNumber_lt (date : Date) : date.dayNumber < dayCount := by
  obtain ⟨year, month, day, ⟨_, hy⟩, ⟨hm, hm'⟩, _, hd⟩ := date
  have hmonth := daysBeforeMonth_succ year month hm
  have hyear := daysBeforeMonth_mono year (show month + 1 ≤ 13 by omega)
  have hsucc := daysBeforeYear_succ year (by assumption)
  have hlast := daysBeforeYear_mono (show year + 1 ≤ 10000 by simp only [lastYear] at hy; omega)
  have : daysBeforeYear 10000 = dayCount := by decide
  simp only [dayNumber]
  omega

theorem dayNumber_ofDayNumber (day : Nat) (h : day < dayCount) :
    (ofDayNumber day h).dayNumber = day := by
  obtain ⟨_, below, _⟩ := yearOfDay_bounds day
  obtain ⟨_, begun, _⟩ := monthUpTo_bounds (yearOfDay day) (day - daysBeforeYear (yearOfDay day)) 12
    (by omega) (dayOfYear_lt day)
  simp only [dayNumber, ofDayNumber]
  omega

theorem ofDayNumber_dayNumber (date : Date) :
    ofDayNumber date.dayNumber date.dayNumber_lt = date := by
  obtain ⟨year, month, day, ⟨pos, _⟩, range, first, length⟩ := date
  have hmonth := daysBeforeMonth_succ year month range.1
  have hyear := daysBeforeMonth_mono year (show month + 1 ≤ 13 by omega)
  have hsucc := daysBeforeYear_succ year pos
  have y : yearOfDay (daysBeforeYear year + daysBeforeMonth year month + (day - 1)) = year :=
    yearOfDay_eq (by omega) (by omega)
  have rest : daysBeforeYear year + daysBeforeMonth year month + (day - 1) - daysBeforeYear year =
      daysBeforeMonth year month + (day - 1) := by omega
  have m : monthUpTo year (daysBeforeMonth year month + (day - 1)) 12 = month :=
    monthUpTo_eq range (by omega) (by omega)
  ext <;> simp only [ofDayNumber, dayNumber, y, rest, m]
  omega

end Date
end CivilRange
