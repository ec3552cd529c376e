import Mathlib.Tactic.ByContra
import OpcUa.Time.Calendar

/-!
# Dates of days

Every number of days is a date of the calendar, and the date gives the number back. Within an era
of 400 years the year of a day never falls as days go by, so it is settled by the first days of the
years, of which there are few enough to look at; the months of a year are looked at day by day.
-/

namespace OpcUa.Calendar

/-- The days of an era before one of its years. -/
def yearStart (year : Int) : Int :=
  365 * year + year / 4 - year / 100

/-- The year of an era that a day of it lies in. -/
def yearOfDay (day : Int) : Int :=
  (day - day / 1460 + day / 36524 - day / 146096) / 365

/-- The month that a day of a year lies in, March first. -/
def monthOfDay (day : Int) : Int :=
  (5 * day + 2) / 153

/-- The place of a day of a year in its month. -/
def dayOfMonth (day : Int) : Int :=
  day - (153 * monthOfDay day + 2) / 5 + 1

/-- The number of a month of the calendar. -/
def monthNumber (monthFromMarch : Int) : Int :=
  if monthFromMarch < 10 then monthFromMarch + 3 else monthFromMarch - 9

theorem yearOfDay_mono {a b : Int} (lower : 0 ≤ a) (le : a ≤ b) (upper : b ≤ 146096) :
    yearOfDay a ≤ yearOfDay b := by
  have leaps : b / 1460 - a / 1460 ≤ b - a := by omega
  have centuries : a / 36524 - a / 146096 ≤ b / 36524 - b / 146096 := by omega
  exact Int.ediv_le_ediv (by decide) (by omega)

theorem yearOfDay_bounds {day : Int} (lower : 0 ≤ day) (upper : day ≤ 146096) :
    0 ≤ yearOfDay day ∧ yearOfDay day < 400 := by
  simp only [yearOfDay]
  omega

theorem yearOfDay_yearStart {year : Int} (lower : 0 ≤ year) (upper : year < 400) :
    yearOfDay (yearStart year) = year := by
  have all : ∀ n : Nat, n < 400 → yearOfDay (yearStart n) = n := by decide +kernel
  have this := all year.toNat (by omega)
  rwa [Int.toNat_of_nonneg lower] at this

theorem yearOfDay_before {year : Int} (lower : 0 < year) (upper : year < 400) :
    yearOfDay (yearStart year - 1) < year := by
  have all : ∀ n : Nat, n < 400 → 0 < n → yearOfDay (yearStart n - 1) < n := by decide +kernel
  have this := all year.toNat (by omega) (by omega)
  rwa [Int.toNat_of_nonneg (Int.le_of_lt lower)] at this

theorem yearStart_nonneg {year : Int} (lower : 0 ≤ year) : 0 ≤ yearStart year := by
  simp only [yearStart]
  omega

theorem yearStart_le {year : Int} (lower : 0 ≤ year) (upper : year < 400) :
    yearStart year ≤ 145731 := by
  simp only [yearStart]
  omega

/-- A day comes after the start of its year and, but for the last day of the era, before the start
of the next. -/
theorem yearStart_yearOfDay {day : Int} (lower : 0 ≤ day) (upper : day ≤ 146096) :
    yearStart (yearOfDay day) ≤ day ∧
      (yearOfDay day < 399 → day < yearStart (yearOfDay day + 1)) := by
  obtain ⟨nonneg, below⟩ := yearOfDay_bounds lower upper
  constructor
  · by_contra later
    rcases Int.lt_or_eq_of_le nonneg with positive | zero
    · have start := yearOfDay_before positive below
      have := yearOfDay_mono lower (Int.le_sub_one_of_lt (Int.not_le.mp later))
        (by have := yearStart_le nonneg below; omega)
      omega
    · rw [← zero, yearStart] at later
      omega
  · intro inner
    by_contra later
    have := yearOfDay_mono (yearStart_nonneg (by omega)) (Int.not_lt.mp later) upper
    rw [yearOfDay_yearStart (by omega) (by omega)] at this
    omega

theorem monthLength_le (year : Int) (month : Nat) : monthLength year month ≤ 31 := by
  simp only [monthLength]
  split
  · split <;> decide
  · split <;> decide

theorem isLeap_add_era (year era : Int) : isLeap (year + era * 400) = isLeap year := by
  have fours : (year + era * 400) % 4 = year % 4 := by omega
  have centuries : (year + era * 400) % 100 = year % 100 := by omega
  have eras : (year + era * 400) % 400 = year % 400 := by omega
  rw [isLeap, fours, centuries, eras, isLeap]

theorem yearStart_next {year : Int} (lower : 0 ≤ year) (upper : year < 400) :
    yearStart (year + 1) ≤ yearStart year + 366 ∧
      (yearStart (year + 1) = yearStart year + 366 → isLeap (year + 1) = true) := by
  have all : ∀ n : Nat, n < 400 → yearStart (n + 1) ≤ yearStart n + 366 ∧
      (yearStart (n + 1) = yearStart n + 366 → isLeap (n + 1) = true) := by decide +kernel
  have this := all year.toNat (by omega)
  rwa [Int.toNat_of_nonneg lower] at this

/-- Only the year before a leap day has 366 days. -/
theorem dayOfYear_bounds {day : Int} (era : Int) (lower : 0 ≤ day) (upper : day ≤ 146096) :
    0 ≤ day - yearStart (yearOfDay day) ∧ day - yearStart (yearOfDay day) ≤ 365 ∧
      (day - yearStart (yearOfDay day) = 365 →
        isLeap (yearOfDay day + 1 + era * 400) = true) := by
  obtain ⟨nonneg, below⟩ := yearOfDay_bounds lower upper
  obtain ⟨started, ended⟩ := yearStart_yearOfDay lower upper
  rw [isLeap_add_era]
  generalize yearOfDay day = year at *
  rcases Int.lt_or_eq_of_le (Int.le_of_lt_add_one below : year ≤ 399) with inner | rfl
  · obtain ⟨close, leap⟩ := yearStart_next nonneg below
    have := ended inner
    exact ⟨by omega, by omega, fun last => leap (by omega)⟩
  · have last : yearStart 399 = 145731 := by decide
    exact ⟨by omega, by omega, fun _ => by decide⟩

theorem month_bounds {day : Int} (lower : 0 ≤ day) (upper : day ≤ 365) :
    0 ≤ monthOfDay day ∧ monthOfDay day ≤ 11 := by
  simp only [monthOfDay]
  omega

theorem isDate_of_dayOfYear {year day : Int} (lower : 0 ≤ day) (upper : day ≤ 365)
    (leap : day = 365 → isLeap year = true) :
    isDate year (monthNumber (monthOfDay day)).toNat (dayOfMonth day).toNat = true := by
  have all : ∀ n : Nat, n < 366 → ∀ leap : Bool, (n = 365 → leap = true) →
      1 ≤ (monthNumber (monthOfDay n)).toNat ∧ (monthNumber (monthOfDay n)).toNat ≤ 12 ∧
        1 ≤ (dayOfMonth n).toNat ∧ (dayOfMonth n).toNat ≤
          (if (monthNumber (monthOfDay n)).toNat = 2 then (if leap then 29 else 28)
          else if (monthNumber (monthOfDay n)).toNat = 4 ∨ (monthNumber (monthOfDay n)).toNat = 6 ∨
            (monthNumber (monthOfDay n)).toNat = 9 ∨ (monthNumber (monthOfDay n)).toNat = 11 then 30
          else 31) := by
    decide +kernel
  have this := all day.toNat (by omega) (isLeap year) (fun last => leap (by omega))
  rw [Int.toNat_of_nonneg lower] at this
  obtain ⟨month, year, started, ended⟩ := this
  simp only [isDate, month, year, started, Bool.true_and, decide_true]
  exact decide_eq_true ended

/-- The date of a day of an era. -/
def ofDayOfEra (era day : Int) : Int × Nat × Nat :=
  let year := yearOfDay day
  let month := monthNumber (monthOfDay (day - yearStart year))
  (if month ≤ 2 then year + era * 400 + 1 else year + era * 400, month.toNat,
    (dayOfMonth (day - yearStart year)).toNat)

theorem ofDays_eq (days : Int) :
    ofDays days = ofDayOfEra ((days + 719468) / 146097)
      (days + 719468 - (days + 719468) / 146097 * 146097) :=
  rfl

theorem isDate_ofDayOfEra (era : Int) {day : Int} (lower : 0 ≤ day) (upper : day ≤ 146096) :
    isDate (ofDayOfEra era day).1 (ofDayOfEra era day).2.1 (ofDayOfEra era day).2.2 = true := by
  obtain ⟨nonneg, below, leap⟩ := dayOfYear_bounds era lower upper
  refine isDate_of_dayOfYear nonneg below fun last => ?_
  have february : monthNumber (monthOfDay (day - yearStart (yearOfDay day))) ≤ 2 := by
    rw [last]
    decide
  simp only [ofDayOfEra, if_pos february]
  rw [Int.add_right_comm]
  exact leap last

/-- A date is counted from the start of its year, March first. -/
theorem toDays_of_parts (era : Int) {year day : Int} (startYear : 0 ≤ year) (endYear : year < 400)
    (lower : 0 ≤ day) (upper : day ≤ 365) :
    toDays (if monthNumber (monthOfDay day) ≤ 2 then year + era * 400 + 1 else year + era * 400)
        (monthNumber (monthOfDay day)).toNat (dayOfMonth day).toNat =
      era * 146097 + (yearStart year + day) - 719468 := by
  obtain ⟨first, last⟩ := month_bounds lower upper
  have started : 1 ≤ dayOfMonth day := by
    simp only [dayOfMonth, monthOfDay]
    omega
  have whole : (153 * monthOfDay day + 2) / 5 + dayOfMonth day - 1 = day := by
    simp only [dayOfMonth]
    omega
  generalize monthOfDay day = month at *
  generalize dayOfMonth day = place at *
  have eras : (year + era * 400) / 400 = era := by omega
  have spelled : yearStart year = year * 365 + year / 4 - year / 100 := by
    simp only [yearStart]
    omega
  rcases Int.lt_or_le month 10 with spring | winter
  · have number : monthNumber month = month + 3 := if_pos spring
    have after : ¬month + 3 ≤ 2 := by omega
    have later : ¬(month + 3).toNat ≤ 2 := by omega
    simp only [toDays, number, if_neg after, if_neg later, eras]
    omega
  · have number : monthNumber month = month - 9 := if_neg (by omega)
    have before : month - 9 ≤ 2 := by omega
    have early : (month - 9).toNat ≤ 2 := by omega
    simp only [toDays, number, if_pos before, if_pos early, Int.add_sub_cancel, eras]
    omega

theorem toDays_ofDayOfEra (era : Int) {day : Int} (lower : 0 ≤ day) (upper : day ≤ 146096) :
    toDays (ofDayOfEra era day).1 (ofDayOfEra era day).2.1 (ofDayOfEra era day).2.2 =
      era * 146097 + day - 719468 := by
  obtain ⟨nonneg, below, -⟩ := dayOfYear_bounds era lower upper
  obtain ⟨startYear, endYear⟩ := yearOfDay_bounds lower upper
  have parts := toDays_of_parts era startYear endYear nonneg below
  rwa [Int.add_comm (yearStart _), Int.sub_add_cancel] at parts

theorem isDate_ofDays (days : Int) :
    isDate (ofDays days).1 (ofDays days).2.1 (ofDays days).2.2 = true := by
  rw [ofDays_eq]
  exact isDate_ofDayOfEra _ (by omega) (by omega)

theorem toDays_ofDays (days : Int) :
    toDays (ofDays days).1 (ofDays days).2.1 (ofDays days).2.2 = days := by
  rw [ofDays_eq, toDays_ofDayOfEra _ (by omega) (by omega)]
  omega

end OpcUa.Calendar
