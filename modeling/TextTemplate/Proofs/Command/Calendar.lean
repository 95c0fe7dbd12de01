import TextTemplate.Command.Moment
import Mathlib.Logic.Function.Iterate
import Mathlib.Tactic.IntervalCases
/-!
# The calendar

Dates follow the Gregorian calendar: after a date comes the next day of its month, after the last
day of a month the first of the next, and February has a leap day in the years that can be divided
by 4, but of those by 100 only in those by 400 (`Date.next`). The conversion of a moment knows
nothing of this: it divides the days by the lengths of 400 years, of 4 years and of 5 months. That
it agrees is shown for the parts of a day's number: its year among 400 (`Moment.yearOfCycle_eq`)
and its month (`Moment.monthOfYear_eq`). Main statement: the date of a moment is the first of
January 1970, moved on by as many days as have passed (`Moment.date_eq`).
-/
namespace TextTemplate.Moment

/-! ### The rule of the calendar -/

/-- Whether a year has a leap day. -/
def hasLeapDay (year : Nat) : Bool :=
  year % 4 == 0 && (year % 100 != 0 || year % 400 == 0)

/-- The number of days of a month of a year. -/
def monthDays (year : Nat) : Nat → Nat
  | 2 => if hasLeapDay year then 29 else 28
  | 4 | 6 | 9 | 11 => 30
  | _ => 31

/-- The date of the day after. -/
def Date.next (d : Date) : Date :=
  if d.day < monthDays d.year d.month then { d with day := d.day + 1 }
  else if d.month < 12 then ⟨d.year, d.month + 1, 1⟩
  else ⟨d.year + 1, 1, 1⟩

/-! ### Years that begin in March -/

/-- The number of days of a year that begins in March: it ends with the February of the next. -/
def marchDays (year : Nat) : Nat := if hasLeapDay (year + 1) then 366 else 365

/-- A year that begins in March has 365 or 366 days. -/
theorem marchDays_bounds (year : Nat) : 365 ≤ marchDays year ∧ marchDays year ≤ 366 := by
  rw [marchDays]
  split <;> decide

/-- Every 400 years the leap days come again. -/
theorem marchDays_add_cycles (year cycles : Nat) :
    marchDays (year + 400 * cycles) = marchDays year := by
  have four : (year + 400 * cycles + 1) % 4 = (year + 1) % 4 := by omega
  have hundred : (year + 400 * cycles + 1) % 100 = (year + 1) % 100 := by omega
  have all : (year + 400 * cycles + 1) % 400 = (year + 1) % 400 := by omega
  rw [marchDays, marchDays, hasLeapDay, hasLeapDay, four, hundred, all]

/-- The number of days of the years before one, among 400. -/
def daysBefore (year : Nat) : Nat := 365 * year + year / 4 - year / 100

/-- The days before a year are those of its centuries, of 4 years each, and of single years. -/
theorem daysBefore_eq {k j i : Nat} (single : i < 4) (few : j < 25) :
    daysBefore (100 * k + 4 * j + i) = 36524 * k + 1461 * j + 365 * i := by
  unfold daysBefore
  omega

/-- Only the last of 4 years may have a leap day, and of the last 4 of a century only the last of
the 400 years. -/
theorem ofYear_lt_cases {k j i ofYear : Nat} (single : i < 4) (few : j < 25) (century : k < 4)
    (inside : ofYear < marchDays (100 * k + 4 * j + i)) :
    ofYear < 365 ∨ ofYear = 365 ∧ i = 3 ∧ (j < 24 ∨ k = 3) := by
  rw [marchDays] at inside
  split at inside
  · rename_i leap
    simp only [hasLeapDay, Bool.and_eq_true, Bool.or_eq_true, beq_iff_eq, bne_iff_ne] at leap
    omega
  · exact .inl inside

/-- The year of a day among 400 is the one in which it lies. -/
theorem yearOfCycle_eq {year ofYear : Nat} (early : year < 400) (inside : ofYear < marchDays year) :
    yearOfCycle (daysBefore year + ofYear) = year := by
  obtain ⟨k, j, i, century, few, single, rfl⟩ :
      ∃ k j i, k < 4 ∧ j < 25 ∧ i < 4 ∧ year = 100 * k + 4 * j + i :=
    ⟨year / 100, year % 100 / 4, year % 4, by omega, by omega, by omega, by omega⟩
  have cases_ := ofYear_lt_cases single few century inside
  rw [daysBefore_eq single few]
  clear inside early
  generalize place : 36524 * k + 1461 * j + 365 * i + ofYear = day
  by_cases last : day = 146096
  · obtain ⟨rfl, rfl, rfl⟩ : k = 3 ∧ j = 24 ∧ i = 3 := by omega
    rw [last]
    decide
  have centuries : day / 36524 = k := by omega
  have none_ : day / 146096 = 0 := by omega
  -- The leap day of the 4 years may have passed by the end of the last of them.
  have leaps : day / 1460 = 25 * k + j ∨
      day / 1460 = 25 * k + j + 1 ∧ 365 ≤ 24 * k + j + ofYear ∧ i = 3 := by omega
  unfold yearOfCycle
  rw [centuries, none_]
  omega

/-- The day of the year of a day among 400 years. -/
theorem dayOfYear_eq {year ofYear : Nat} (early : year < 400) (inside : ofYear < marchDays year) :
    dayOfYear (daysBefore year + ofYear) = ofYear := by
  rw [dayOfYear, yearOfCycle_eq early inside]
  exact Nat.add_sub_cancel_left ..

/-- A year ends where the next one begins. -/
theorem daysBefore_add_marchDays {year : Nat} (early : year < 399) :
    daysBefore year + marchDays year = daysBefore (year + 1) := by
  unfold daysBefore marchDays
  split
  · rename_i leap
    simp only [hasLeapDay, Bool.and_eq_true, Bool.or_eq_true, beq_iff_eq, bne_iff_ne] at leap
    omega
  · rename_i common
    simp only [hasLeapDay, Bool.and_eq_true, Bool.or_eq_true, beq_iff_eq, bne_iff_ne] at common
    omega

/-- The last of 400 years ends with them. -/
theorem daysBefore_last : daysBefore 399 + marchDays 399 = cycleDays := by decide

/-- No year among 400 ends after them. -/
theorem lt_cycleDays {year ofYear : Nat} (early : year < 400) (inside : ofYear < marchDays year) :
    daysBefore year + ofYear < cycleDays := by
  have mono : daysBefore year ≤ daysBefore 399 := by
    unfold daysBefore
    omega
  have short : marchDays year ≤ marchDays 399 := (marchDays_bounds year).2
  have last := daysBefore_last
  omega

/-- Every day of 400 years lies in one of them. -/
theorem exists_year {day : Nat} (inside : day < cycleDays) :
    ∃ year ofYear, year < 400 ∧ ofYear < marchDays year ∧ day = daysBefore year + ofYear := by
  induction day with
  | zero => exact ⟨0, 0, by decide, by decide, rfl⟩
  | succ day ih =>
    obtain ⟨year, ofYear, early, within, place⟩ := ih (by omega)
    by_cases same : ofYear + 1 < marchDays year
    · exact ⟨year, ofYear + 1, early, same, by omega⟩
    · by_cases last : year = 399
      · subst last
        have := daysBefore_last
        omega
      · have ends := daysBefore_add_marchDays (show year < 399 by omega)
        have long := (marchDays_bounds (year + 1)).1
        exact ⟨year + 1, 0, by omega, by omega, by omega⟩

/-- The date of a day of one of 400 years. -/
theorem ofDay_eq {year ofYear : Nat} (early : year < 400) (inside : ofYear < marchDays year)
    (cycles : Nat) : Date.ofDay (daysBefore year + ofYear + cycleDays * cycles) =
      .ofMarch (year + 400 * cycles) ofYear := by
  have below := lt_cycleDays early inside
  have ofCycle : (daysBefore year + ofYear + cycleDays * cycles) % cycleDays =
      daysBefore year + ofYear := by
    rw [Nat.add_mul_mod_self_left, Nat.mod_eq_of_lt below]
  have cycle : (daysBefore year + ofYear + cycleDays * cycles) / cycleDays = cycles := by
    rw [Nat.add_mul_div_left _ _ (by decide), Nat.div_eq_of_lt below, Nat.zero_add]
  rw [Date.ofDay, ofCycle, cycle, yearOfCycle_eq early inside, dayOfYear_eq early inside]

/-! ### Months -/

/-- The number of days of a year that begins in March before one of its months. -/
def monthStart (month : Nat) : Nat := (153 * month + 2) / 5

/-- The month of a day is the one in which it lies. -/
theorem monthOfYear_eq {month day : Nat} (after : monthStart month ≤ day)
    (before : day < monthStart (month + 1)) : monthOfYear day = month := by
  unfold monthStart at after before
  unfold monthOfYear
  omega

/-- Every day lies in a month. -/
theorem exists_month (day : Nat) :
    ∃ month ofMonth, day = monthStart month + ofMonth ∧ day < monthStart (month + 1) := by
  refine ⟨monthOfYear day, dayOfMonth day, ?_, ?_⟩
  · unfold dayOfMonth monthStart monthOfYear
    omega
  · unfold monthStart monthOfYear
    omega

/-- The year of a month of a year that begins in March. -/
def yearOfMonth (year month : Nat) : Nat := if month < 10 then year else year + 1

/-- The number that the calendar gives a month of a year that begins in March. -/
def calendarMonth (month : Nat) : Nat := if month < 10 then month + 3 else month - 9

/-- The date of a day of a month. -/
theorem ofMarch_eq {month ofMonth : Nat} (year : Nat)
    (before : monthStart month + ofMonth < monthStart (month + 1)) :
    Date.ofMarch year (monthStart month + ofMonth) =
      ⟨yearOfMonth year month, calendarMonth month, ofMonth + 1⟩ := by
  have place := monthOfYear_eq (Nat.le_add_right _ _) before
  have rest : dayOfMonth (monthStart month + ofMonth) = ofMonth := by
    rw [dayOfMonth, place]
    exact Nat.add_sub_cancel_left ..
  rw [Date.ofMarch, place, rest, yearOfMonth, calendarMonth]
  split <;> rfl

/-- Every month but the last has as many days as the calendar gives it. -/
theorem monthDays_eq (year : Nat) {month : Nat} (early : month < 11) :
    monthStart month + monthDays (yearOfMonth year month) (calendarMonth month) =
      monthStart (month + 1) := by
  interval_cases month <;> rfl

/-- The last month ends with the year. -/
theorem monthDays_last (year : Nat) :
    monthStart 11 + monthDays (yearOfMonth year 11) (calendarMonth 11) = marchDays year := by
  rw [marchDays, show monthDays _ _ = if hasLeapDay (year + 1) then 29 else 28 from rfl]
  split <;> rfl

/-- After the months of a year that begins in March come the months of the calendar. -/
theorem next_month (year : Nat) {month : Nat} (early : month < 11) :
    (if calendarMonth month < 12 then ⟨yearOfMonth year month, calendarMonth month + 1, 1⟩
      else ⟨yearOfMonth year month + 1, 1, 1⟩ : Date) =
      ⟨yearOfMonth year (month + 1), calendarMonth (month + 1), 1⟩ := by
  interval_cases month <;> rfl

/-- The day after a day of a year that begins in March is the next one of the year or the first one
of the next. -/
theorem next_ofMarch {year ofYear : Nat} (inside : ofYear < marchDays year) :
    (Date.ofMarch year ofYear).next =
      if ofYear + 1 < marchDays year then .ofMarch year (ofYear + 1)
      else .ofMarch (year + 1) 0 := by
  obtain ⟨month, ofMonth, rfl, before⟩ := exists_month ofYear
  obtain ⟨least, most⟩ := marchDays_bounds year
  have early : month < 12 := by
    unfold monthStart at inside
    omega
  rw [ofMarch_eq year before, Date.next]
  dsimp only
  by_cases last : month = 11
  · subst last
    have days := monthDays_last year
    by_cases more : monthStart 11 + ofMonth + 1 < marchDays year
    · rw [if_pos (by omega), if_pos more]
      exact (ofMarch_eq year (by unfold monthStart at *; omega)).symm
    · rw [if_neg (by omega), if_neg more]
      rfl
  · have days := monthDays_eq year (show month < 11 by omega)
    have ends : monthStart (month + 1) < marchDays year := by
      unfold monthStart
      omega
    rw [if_pos (show monthStart month + ofMonth + 1 < marchDays year by omega)]
    by_cases more : monthStart month + ofMonth + 1 < monthStart (month + 1)
    · rw [if_pos (by omega)]
      exact (ofMarch_eq year more).symm
    · have first : monthStart month + ofMonth + 1 = monthStart (month + 1) + 0 := by omega
      have short : monthStart (month + 1) + 0 < monthStart (month + 1 + 1) := by
        unfold monthStart
        omega
      rw [if_neg (by omega), next_month year (by omega), first, ofMarch_eq year short]

/-- The date of the day after is the next date. -/
theorem ofDay_succ (day : Nat) : Date.ofDay (day + 1) = (Date.ofDay day).next := by
  obtain ⟨year, ofYear, early, inside, place⟩ := exists_year (Nat.mod_lt day (by decide))
  have whole : day = daysBefore year + ofYear + cycleDays * (day / cycleDays) := by
    rw [← place, Nat.mod_add_div]
  generalize day / cycleDays = cycles at whole
  subst whole
  have alike := marchDays_add_cycles year cycles
  rw [ofDay_eq early inside, next_ofMarch (alike ▸ inside), alike]
  by_cases same : ofYear + 1 < marchDays year
  · have first : daysBefore year + ofYear + cycleDays * cycles + 1 =
        daysBefore year + (ofYear + 1) + cycleDays * cycles := by omega
    rw [if_pos same, first, ofDay_eq early same]
  · have nonempty : 0 < marchDays (year + 1) := by
      have long := (marchDays_bounds (year + 1)).1
      omega
    rw [if_neg same]
    by_cases last : year = 399
    · subst last
      have ends := daysBefore_last
      have first : daysBefore 399 + ofYear + cycleDays * cycles + 1 =
          daysBefore 0 + 0 + cycleDays * (cycles + 1) := by
        rw [show daysBefore 0 = 0 from rfl, Nat.mul_add]
        omega
      have later : 0 + 400 * (cycles + 1) = 399 + 400 * cycles + 1 := by omega
      rw [first, ofDay_eq (by decide) (by decide), later]
    · have ends := daysBefore_add_marchDays (show year < 399 by omega)
      have first : daysBefore year + ofYear + cycleDays * cycles + 1 =
          daysBefore (year + 1) + 0 + cycleDays * cycles := by omega
      have later : year + 1 + 400 * cycles = year + 400 * cycles + 1 := by omega
      rw [first, ofDay_eq (by omega) nonempty, later]

/-- The date of a moment is the first of January 1970, moved on by the days that have passed. -/
theorem date_eq (m : Moment) : m.date = Date.next^[m.seconds / 86400] ⟨1970, 1, 1⟩ := by
  rw [date]
  induction m.seconds / 86400 with
  | zero => decide
  | succ days ih => rw [Function.iterate_succ_apply', ← ih, ← ofDay_succ, Nat.add_right_comm]

/-- A year that can be divided by 400 has a leap day, which is its 29th of February. -/
example : date ⟨951782400⟩ = ⟨2000, 2, 29⟩ ∧ date ⟨951868800⟩ = ⟨2000, 3, 1⟩ := by decide

end TextTemplate.Moment
