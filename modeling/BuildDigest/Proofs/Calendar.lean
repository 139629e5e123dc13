import BuildDigest.Time.Timestamp
import Mathlib.Tactic.ByContra
import Mathlib.Tactic.IntervalCases

set_option autoImplicit false

namespace BuildDigest

namespace Date

-- The day of a cycle of 400 years on which one of them begins.
def yearStart (year : Nat) : Nat :=
  365 * year + year / 4 - year / 100 + year / 400

theorem year_start_in_cycle (year : Nat) (small : year < 400) :
    yearStart year = 365 * year + year / 4 - year / 100 := by
  have begun : year / 400 = 0 := Nat.div_eq_of_lt small
  rw [yearStart, begun, Nat.add_zero]

def yearOf (day : Nat) : Nat :=
  (day - day / 1460 + day / 36524 - day / 146096) / 365

theorem year_start_mono (year later : Nat) (order : year ≤ later) :
    yearStart year ≤ yearStart later := by
  have quarters : year / 4 ≤ later / 4 := Nat.div_le_div_right order
  have slow : later / 100 - year / 100 ≤ later - year := by omega
  have centuries : year / 100 ≤ later / 100 := Nat.div_le_div_right order
  have cycles : year / 400 ≤ later / 400 := Nat.div_le_div_right order
  unfold yearStart
  omega

theorem year_of_mono (day later : Nat) (order : day ≤ later) (inCycle : later < 146097) :
    yearOf day ≤ yearOf later := by
  unfold yearOf
  by_cases last : later = 146096
  · omega
  · have early : day / 146096 = 0 := by omega
    have late : later / 146096 = 0 := by omega
    have slow : later / 1460 - day / 1460 ≤ later - day := by omega
    have first : day / 1460 ≤ later / 1460 := Nat.div_le_div_right order
    have second : day / 36524 ≤ later / 36524 := Nat.div_le_div_right order
    rw [early, late]
    exact Nat.div_le_div_right (by omega)

theorem year_of_first : ∀ year < 400, yearOf (yearStart year) = year := by decide +kernel

theorem year_of_last : ∀ year < 400, yearOf (yearStart (year + 1) - 1) = year := by decide +kernel

theorem year_of_bounds (day : Nat) (inCycle : day < 146097) :
    yearOf day < 400 ∧ yearStart (yearOf day) ≤ day ∧ day < yearStart (yearOf day + 1) := by
  have small : yearOf day < 400 := by
    unfold yearOf
    omega
  refine ⟨small, ?_, ?_⟩
  · by_contra early
    cases year : yearOf day with
    | zero =>
      rw [year] at early
      exact early (Nat.zero_le day)
    | succ before =>
      rw [year] at early small
      have cycle := year_start_mono (before + 1) 400 (by omega)
      have last : yearStart 400 = 146097 := rfl
      have later := year_of_mono day (yearStart (before + 1) - 1) (by omega) (by omega)
      rw [year_of_last before (by omega)] at later
      omega
  · by_contra late
    by_cases last : yearOf day = 399
    · rw [last] at late
      exact late inCycle
    · have later := year_of_mono (yearStart (yearOf day + 1)) day (by omega) inCycle
      rw [year_of_first (yearOf day + 1) (by omega)] at later
      omega

-- Counted from March on, a year is longer if the next one has a leap day.
theorem year_length : ∀ year < 400, yearStart (year + 1) ≤ yearStart year + 366 ∧
    (yearStart (year + 1) = yearStart year + 366 →
      (year + 1) % 4 = 0 ∧ ((year + 1) % 100 ≠ 0 ∨ (year + 1) % 400 = 0)) := by decide +kernel

theorem of?_isSome (year : Int) (month day : Nat) :
    (of? year month day).isSome ↔ Valid year month day := by
  unfold of?
  split
  · next valid => exact ⟨fun _ => valid, fun _ => rfl⟩
  · next invalid => exact ⟨nofun, fun valid => absurd valid invalid⟩

-- Where the months of a year have the lengths that they have, none is too short for its days.
theorem in_month (year : Int) (dayOfYear month dayOfMonth : Nat)
    (inYear : dayOfYear ≤ 365) (leap : dayOfYear = 365 → IsLeap (year + 1))
    (isMonth : month = (5 * dayOfYear + 2) / 153)
    (isDay : dayOfMonth = dayOfYear - (153 * month + 2) / 5 + 1) :
    1 ≤ dayOfMonth ∧ (month < 10 → month + 3 ≤ 12 ∧ dayOfMonth ≤ daysIn year (month + 3)) ∧
      (10 ≤ month → month - 9 ≤ 2 ∧ dayOfMonth ≤ daysIn (year + 1) (month - 9)) := by
  have few : month ≤ 11 := by omega
  refine ⟨by omega, fun early => ⟨by omega, ?_⟩, fun late => ⟨by omega, ?_⟩⟩
  · interval_cases month <;> simp only [daysIn] <;> omega
  · interval_cases month
    · simp only [daysIn]
      omega
    · simp only [daysIn]
      split
      · omega
      · next common =>
        have short : dayOfYear ≠ 365 := fun last => common (leap last)
        omega

def firstNumber : Int := -96465292
def lastNumber : Int := 95026236

-- A number of days as a number of cycles, a year of a cycle, counted from March on, and a day of it.
structure Parts (n cycle : Int) (year dayOfYear : Nat) : Prop where
  inCycle : year < 400
  whole : n + 719468 = 146097 * cycle + yearStart year + dayOfYear
  inYear : yearStart year + dayOfYear < yearStart (year + 1)
  date : ∀ month, month = (5 * dayOfYear + 2) / 153 → ofDayNumber? n =
    if month < 10 then
      of? (400 * cycle + year) (month + 3) (dayOfYear - (153 * month + 2) / 5 + 1)
    else of? (400 * cycle + year + 1) (month - 9) (dayOfYear - (153 * month + 2) / 5 + 1)

theorem parts_exist (n : Int) : ∃ cycle year dayOfYear, Parts n cycle year dayOfYear := by
  obtain ⟨cycle, day, inCycle, whole, isCycle, isDay⟩ : ∃ (cycle : Int) (day : Nat), day < 146097 ∧
      n + 719468 = 146097 * cycle + day ∧ (n + 719468).fdiv 146097 = cycle ∧
      ((n + 719468).fmod 146097).toNat = day := by
    rw [Int.fdiv_eq_ediv_of_nonneg _ (by omega), Int.fmod_eq_emod_of_nonneg _ (by omega)]
    exact ⟨_, _, by omega, by omega, rfl, rfl⟩
  obtain ⟨small, started, notOver⟩ := year_of_bounds day inCycle
  refine ⟨cycle, yearOf day, day - yearStart (yearOf day), small, by omega, by omega, ?_⟩
  rintro month rfl
  unfold ofDayNumber?
  simp only [isCycle, isDay, year_start_in_cycle (yearOf day) small]
  rfl

theorem of_day_number_isSome (n : Int) :
    (ofDayNumber? n).isSome ↔ firstNumber ≤ n ∧ n ≤ lastNumber := by
  obtain ⟨cycle, year, dayOfYear, small, whole, within, date⟩ := parts_exist n
  obtain ⟨length, longer⟩ := year_length year small
  have leap : dayOfYear = 365 → IsLeap (400 * cycle + year + 1) := by
    intro last
    have next := longer (by omega)
    unfold IsLeap
    omega
  obtain ⟨someDay, early, late⟩ := in_month (400 * cycle + year) dayOfYear _ _ (by omega) leap rfl rfl
  have inCycle : yearStart year + dayOfYear < 146097 :=
    Nat.lt_of_lt_of_le within (year_start_mono (year + 1) 400 small)
  -- The limits are in the middle of a cycle: where their years begin, and the years behind them.
  have first : year < 256 → yearStart year + dayOfYear < 93502 := fun before =>
    Nat.lt_of_lt_of_le within (year_start_mono (year + 1) 256 before)
  have afterFirst : 257 ≤ year → 93867 ≤ yearStart year := year_start_mono 257 year
  have last : year < 142 → yearStart year + dayOfYear < 51864 := fun before =>
    Nat.lt_of_lt_of_le within (year_start_mono (year + 1) 142 before)
  have afterLast : 143 ≤ year → 52229 ≤ yearStart year := year_start_mono 143 year
  have exactFirst : year = 256 → yearStart year = 93502 := by rintro rfl; rfl
  have exactLast : year = 142 → yearStart year = 51864 := by rintro rfl; rfl
  rw [date _ rfl, firstNumber, lastNumber]
  split
  · next month =>
    obtain ⟨inMonths, inDays⟩ := early month
    rw [of?_isSome, Valid]
    omega
  · next month =>
    obtain ⟨inMonths, inDays⟩ := late (by omega)
    rw [of?_isSome, Valid]
    omega

example : ofDayNumber? firstNumber = of? (-262143) 1 1 ∧
    ofDayNumber? lastNumber = of? 262142 12 31 := by
  decide +kernel

def leapYears (year : Int) : Int :=
  year / 4 - year / 100 + year / 400

theorem leap_years_step (year : Int) :
    leapYears year = leapYears (year - 1) + if IsLeap year then 1 else 0 := by
  unfold leapYears
  by_cases leap : IsLeap year
  · rw [if_pos leap]
    unfold IsLeap at leap
    omega
  · rw [if_neg leap]
    unfold IsLeap at leap
    omega

def daysBefore (year : Int) (month : Nat) : Nat :=
  ((List.range' 1 (month - 1)).map (daysIn year)).sum

-- The days from the first of January 1970 to the date, in years of 365 days, leap days, months and
-- days; the years before 1970 have 719162 days.
def dayNumber (d : Date) : Int :=
  365 * (d.year - 1) + leapYears (d.year - 1) + daysBefore d.year d.month + (d.day - 1) - 719162

-- Five months from March on have 153 days.
theorem days_before_from_march (year : Int) (month : Nat) (few : month < 10) :
    daysBefore year (month + 3) = (153 * month + 2) / 5 + 59 + if IsLeap year then 1 else 0 := by
  unfold daysBefore
  interval_cases month <;> simp only [daysIn, List.range', List.map_cons, List.map_nil,
    List.sum_cons, List.sum_nil] <;> split <;> rfl

theorem of_day_number_number (n : Int) (d : Date) (told : ofDayNumber? n = some d) :
    d.dayNumber = n := by
  obtain ⟨cycle, year, dayOfYear, small, whole, within, date⟩ := parts_exist n
  obtain ⟨month, isMonth⟩ : ∃ month, month = (5 * dayOfYear + 2) / 153 := ⟨_, rfl⟩
  rw [date month isMonth] at told
  have begun : (153 * month + 2) / 5 ≤ dayOfYear := by omega
  have start := year_start_in_cycle year small
  have cycles : leapYears (400 * cycle + year) = 97 * cycle + (year / 4 - year / 100 : Nat) := by
    unfold leapYears
    omega
  unfold of? at told
  split at told
  · next early =>
    split at told
    · cases told
      have leap := leap_years_step (400 * cycle + year)
      rw [dayNumber, days_before_from_march _ month early]
      push_cast
      omega
    · cases told
  · next late =>
    split at told
    · cases told
      obtain ⟨length, -⟩ := year_length year small
      have winter : daysBefore (400 * cycle + year + 1) (month - 9) + 306 = (153 * month + 2) / 5 := by
        obtain rfl | rfl : month = 10 ∨ month = 11 := by omega
        · rfl
        · rfl
      rw [dayNumber, Int.add_sub_cancel]
      push_cast
      omega
    · cases told

end Date

namespace Timestamp

def InCalendar (ms : Int64) : Prop :=
  -8334601228800000 ≤ ms.toInt ∧ ms.toInt ≤ 8210266876799999

theorem of_millis_none (ms : Int64) : ofMillis? ms = none ↔ ¬InCalendar ms := by
  have inDay (date : Date) (hour minute second nano : Nat)
      (bounds : hour < 24 ∧ minute < 60 ∧ second ≤ 60 ∧ nano < 1000000000) :
      of? date hour minute second nano = some ⟨date, hour, minute, second, nano, bounds⟩ :=
    dif_pos bounds
  have reached := Date.of_day_number_isSome (ms.toInt.fdiv 86400000)
  rw [Int.fdiv_eq_ediv_of_nonneg _ (by omega), Date.firstNumber, Date.lastNumber] at reached
  have same : InCalendar ms ↔ (Date.ofDayNumber? (ms.toInt / 86400000)).isSome := by
    rw [reached, InCalendar]
    omega
  rw [ofMillis?, Int.fdiv_eq_ediv_of_nonneg _ (by omega), Int.fmod_eq_emod_of_nonneg _ (by omega),
    same]
  cases Date.ofDayNumber? (ms.toInt / 86400000) with
  | none => exact ⟨fun _ => nofun, fun _ => rfl⟩
  | some date =>
    rw [Option.bind_eq_bind, Option.bind_some, inDay _ _ _ _ _ (by omega)]
    exact ⟨nofun, fun never => absurd rfl never⟩

def millis (t : Timestamp) : Int :=
  (((t.date.dayNumber * 24 + t.hour) * 60 + t.minute) * 60 + t.second) * 1000 + t.nano / 1000000

theorem of_millis_millis (ms : Int64) (t : Timestamp) (told : ofMillis? ms = some t) :
    t.millis = ms.toInt ∧ t.second < 60 ∧ t.nano % 1000000 = 0 := by
  unfold ofMillis? at told
  rw [Int.fdiv_eq_ediv_of_nonneg _ (by omega), Int.fmod_eq_emod_of_nonneg _ (by omega)] at told
  cases found : Date.ofDayNumber? (ms.toInt / 86400000) with
  | none =>
    rw [found] at told
    cases told
  | some date =>
    rw [found] at told
    obtain ⟨inDay, isInDay⟩ : ∃ inDay, inDay = (ms.toInt % 86400000).toNat := ⟨_, rfl⟩
    simp only [Option.bind_eq_bind, Option.bind_some, of?, ← isInDay] at told
    split at told
    · cases told
      have day := Date.of_day_number_number _ date found
      simp only [millis, day]
      omega
    · cases told

end Timestamp

end BuildDigest
