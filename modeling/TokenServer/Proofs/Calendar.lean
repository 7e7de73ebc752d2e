import Mathlib.Algebra.Group.Nat.Defs
import TokenServer.Time.Calendar

/-! Days and their numbers. Every number is that of a day on the calendar. The day is found inside a cycle of four
hundred years, whose years are checked one by one at their first and last days: in between nothing can go wrong, as the
year is found by a formula that never goes down. -/

namespace TokenServer.Date

/-- The days of a cycle before the year with this number, where years begin in March. -/
def yearStart (year : Int) : Int := 365 * year + year / 4 - year / 100 + year / 400

def yearOfDay (day : Int) : Int := (day - day / 1460 + day / 36524 - day / 146096) / 365

theorem yearOfDay_mono {first second : Int} (ordered : first ≤ second) :
    yearOfDay first ≤ yearOfDay second := by
  have centuries : ∀ day : Int, day / 146096 = day / 36524 / 4 := fun day => by omega
  have slow : second / 1460 - first / 1460 ≤ second - first := by omega
  have quick : second / 146096 - first / 146096 ≤ second / 36524 - first / 36524 := by
    rw [centuries, centuries]
    omega
  rw [yearOfDay, yearOfDay]
  omega

/-- A year of a cycle ends before the next begins, and both its first day and its last are found to be in it. -/
theorem yearOfDay_ends : ∀ year < 400, yearOfDay (yearStart (year : Nat)) = year ∧
    yearOfDay (yearStart (year + 1) - 1) = year := by
  decide +kernel

theorem exists_year {day : Int} (start : 0 ≤ day) : ∀ years : Nat, day < yearStart years →
    ∃ year < years, yearStart (year : Nat) ≤ day ∧ day < yearStart (year + 1)
  | 0, before => absurd before (by rw [yearStart]; omega)
  | years + 1, before => by
    by_cases earlier : day < yearStart years
    · obtain ⟨year, bound, within⟩ := exists_year start years earlier
      exact ⟨year, Nat.lt_succ_of_lt bound, within⟩
    · exact ⟨years, Nat.lt_succ_self _, Int.not_lt.mp earlier, by exact_mod_cast before⟩

theorem yearOfDay_spec {day : Int} (start : 0 ≤ day) (bound : day < cycleDays) :
    ∃ year : Nat, year < 400 ∧ yearOfDay day = year ∧ yearStart year ≤ day ∧ day < yearStart (year + 1) := by
  obtain ⟨year, inside, after, before⟩ := exists_year start 400 bound
  obtain ⟨first, last⟩ := yearOfDay_ends year inside
  have low := yearOfDay_mono after
  have high := yearOfDay_mono (Int.le_sub_one_of_lt before)
  rw [first] at low
  rw [last] at high
  exact ⟨year, inside, Int.le_antisymm high low, after, before⟩

/-- The days of a year before the month with this number, where years begin in March. -/
def monthStart (month : Int) : Int := (153 * month + 2) / 5

def monthOfDay (day : Int) : Int := (5 * day + 2) / 153

/-- The days of a month, by how long February is. -/
def monthDays (february : Nat) (month : Nat) : Nat :=
  if month = 11 then february else if month = 1 ∨ month = 3 ∨ month = 6 ∨ month = 8 then 30 else 31

theorem monthOfDay_spec : ∀ day < 366, ∃ month < 12, monthOfDay (day : Nat) = (month : Nat) ∧
    monthStart month ≤ day ∧ day < monthStart month + monthDays (if day < 365 then 28 else 29) month := by
  decide +kernel

/-- A year of a cycle is longer by a day if the next year on the calendar, in which it ends, is a leap year. -/
theorem yearLength : ∀ year < 400, yearStart ((year : Nat) + 1) - yearStart year =
    if isLeapYear (year + 1) then 366 else 365 := by
  decide +kernel

theorem isLeapYear_cycle (cycle year : Int) : isLeapYear (cycle * 400 + year) = isLeapYear year := by
  have mods : (cycle * 400 + year) % 4 = year % 4 ∧ (cycle * 400 + year) % 100 = year % 100 ∧
      (cycle * 400 + year) % 400 = year % 400 := by omega
  simp only [isLeapYear, mods]

theorem ofDayNumber_eq (number : Int) : ofDayNumber number =
    let dayOfCycle := (number + epochOffset) % cycleDays
    let year := yearOfDay dayOfCycle
    let dayOfYear := dayOfCycle - (365 * year + year / 4 - year / 100)
    let month := monthOfDay dayOfYear
    let day := dayOfYear - monthStart month + 1
    if month < 10 then ⟨(number + epochOffset) / cycleDays * 400 + year, (month + 3).toNat, day.toNat⟩
    else ⟨(number + epochOffset) / cycleDays * 400 + year + 1, (month - 9).toNat, day.toNat⟩ := rfl

/-- A day by its cycle, the year of the cycle, the month and the day of the month, which count from March and from
zero. -/
structure Placed (number : Int) (cycle : Int) (year month day : Nat) : Prop where
  years : year < 400
  months : month < 12
  days : day < monthDays (if isLeapYear (year + 1) then 29 else 28) month
  total : number + epochOffset = cycle * cycleDays + yearStart year + monthStart month + day
  date : ofDayNumber number =
    if month < 10 then ⟨cycle * 400 + year, month + 3, day + 1⟩
    else ⟨cycle * 400 + year + 1, month - 9, day + 1⟩

theorem exists_placed (number : Int) : ∃ cycle year month day, Placed number cycle year month day := by
  obtain ⟨cycle, rest, parts, inside, quotient, remainder⟩ : ∃ cycle rest : Int,
      number + epochOffset = cycle * cycleDays + rest ∧ (0 ≤ rest ∧ rest < cycleDays) ∧
        (number + epochOffset) / cycleDays = cycle ∧ (number + epochOffset) % cycleDays = rest := by
    refine ⟨(number + epochOffset) / cycleDays, (number + epochOffset) % cycleDays, ?_, ?_, rfl, rfl⟩ <;>
      rw [cycleDays] <;> omega
  obtain ⟨year, yearBound, found, after, before⟩ := yearOfDay_spec inside.1 inside.2
  have length := yearLength year yearBound
  obtain ⟨dayOfYear, same⟩ : ∃ dayOfYear : Nat, rest - yearStart year = dayOfYear :=
    ⟨_, (Int.toNat_of_nonneg (by omega)).symm⟩
  have dayBound : dayOfYear < 366 := by
    split at length <;> omega
  obtain ⟨month, monthBound, foundMonth, afterMonth, beforeMonth⟩ := monthOfDay_spec dayOfYear dayBound
  obtain ⟨day, sameDay⟩ : ∃ day : Nat, (dayOfYear : Int) - monthStart month = day :=
    ⟨_, (Int.toNat_of_nonneg (by omega)).symm⟩
  refine ⟨cycle, year, month, day, yearBound, monthBound, ?_, by omega, ?_⟩
  · have bound : day < monthDays (if dayOfYear < 365 then 28 else 29) month := by omega
    by_cases leap : isLeapYear (year + 1) = true
    · rw [if_pos leap]
      have most : monthDays (if dayOfYear < 365 then 28 else 29) month ≤ monthDays 29 month := by
        unfold monthDays
        split <;> split <;> omega
      exact Nat.lt_of_lt_of_le bound most
    · rw [if_neg leap] at length ⊢
      rwa [if_pos (by omega)] at bound
  · have days : rest - (365 * (year : Int) + year / 4 - year / 100) = dayOfYear := by
      rw [← same, yearStart]
      omega
    have number : (dayOfYear : Int) - monthStart month + 1 = (day + 1 : Nat) := by omega
    rw [ofDayNumber_eq]
    simp only [quotient, remainder, found, days, foundMonth, number, Int.toNat_natCast]
    by_cases early : month < 10
    · have month : ((month : Int) + 3).toNat = month + 3 := by omega
      rw [if_pos early, if_pos (by omega), month]
    · have month : ((month : Int) - 9).toNat = month - 9 := by omega
      rw [if_neg early, if_neg (by omega), month]

/-- Only the months of a year and the days of a month are found. -/
theorem isValid_ofDayNumber (number : Int) : (ofDayNumber number).isValid = true := by
  obtain ⟨cycle, year, month, day, placed⟩ := exists_placed number
  have monthBound := placed.months
  have dayBound := placed.days
  rw [placed.date]
  by_cases early : month < 10
  · have whole : monthDays (if isLeapYear (year + 1) then 29 else 28) month =
        daysInMonth (cycle * 400 + year) (month + 3) := by
      rw [monthDays, if_neg (show ¬ month = 11 by omega), daysInMonth, if_neg (show ¬ month + 3 = 2 by omega)]
      by_cases short : month = 1 ∨ month = 3 ∨ month = 6 ∨ month = 8
      · rw [if_pos short, if_pos (by omega)]
      · rw [if_neg short, if_neg (by omega)]
    rw [if_pos early]
    simp only [isValid, Bool.and_eq_true, decide_eq_true_eq]
    omega
  · have whole : monthDays (if isLeapYear (year + 1) then 29 else 28) month =
        daysInMonth (cycle * 400 + year + 1) (month - 9) := by
      have leap := isLeapYear_cycle cycle (year + 1)
      rw [← Int.add_assoc] at leap
      rw [monthDays, daysInMonth, leap]
      by_cases february : month = 11
      · rw [if_pos february, if_pos (show month - 9 = 2 by omega)]
      · rw [if_neg february, if_neg (show ¬ month - 9 = 2 by omega), if_neg (by omega), if_neg (by omega)]
    rw [if_neg early]
    simp only [isValid, Bool.and_eq_true, decide_eq_true_eq]
    omega

theorem dayNumber_ofDayNumber (number : Int) : (ofDayNumber number).dayNumber = number := by
  obtain ⟨cycle, year, month, day, placed⟩ := exists_placed number
  have yearBound := placed.years
  have monthBound := placed.months
  have total := placed.total
  have yearOfCycle : (cycle * 400 + year) % 400 = (year : Int) ∧ (cycle * 400 + year) / 400 = cycle := by omega
  have start : (year : Int) * 365 + year / 4 - year / 100 = yearStart year := by
    rw [yearStart]
    omega
  have first : cycle * cycleDays + (yearStart year + ((153 * month + 2) / 5 + (day + 1 : Nat) - 1)) - epochOffset =
      number := by
    rw [monthStart] at total
    omega
  rw [placed.date]
  by_cases early : month < 10
  · have march : marchMonth (month + 3) = month := by
      rw [marchMonth]
      omega
    rw [if_pos early, dayNumber]
    simp only [if_neg (show ¬ month + 3 ≤ 2 by omega), march, yearOfCycle, start]
    exact first
  · have march : marchMonth (month - 9) = month := by
      rw [marchMonth]
      omega
    rw [if_neg early, dayNumber]
    simp only [if_pos (show month - 9 ≤ 2 by omega), march, Int.add_sub_cancel, yearOfCycle, start]
    exact first

/-- The fields of a date all fit two digits. -/
theorem bounds_of_isValid {date : Date} (valid : date.isValid = true) : date.month < 10 ^ 2 ∧ date.day < 10 ^ 2 := by
  have most : daysInMonth date.year date.month ≤ 31 := by
    unfold daysInMonth
    repeat' split
    all_goals decide
  simp only [isValid, Bool.and_eq_true, decide_eq_true_eq] at valid
  omega

/-- The calendar has less than a hundred million days before 1970, and after. -/
theorem dayNumber_bounds {date : Date} (known : yearIsKnown date.year = true) (valid : date.isValid = true) :
    -100000000 < date.dayNumber ∧ date.dayNumber < 100000000 := by
  have fields := bounds_of_isValid valid
  simp only [yearIsKnown, Bool.and_eq_true, decide_eq_true_eq] at known
  simp only [dayNumber, marchMonth, cycleDays, epochOffset]
  split <;> omega

end TokenServer.Date
