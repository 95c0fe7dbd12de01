/-!
# Moments

A moment is a number of seconds after the beginning of 1970 in universal time, every day of which
has 86400 seconds. It is written as date and time of day, `2024-02-29T23:59:59Z`. To find the date,
years are taken to begin in March, so that a leap day is the last day of its year.
-/
namespace TextTemplate

/-- A moment since the beginning of 1970. -/
structure Moment where
  /-- The seconds after the beginning of 1970. -/
  seconds : Nat
deriving DecidableEq, Repr

namespace Moment

/-- The number of days of 400 years. -/
def cycleDays : Nat := 146097

/-- The number of days from the first of March of the year 0 to the beginning of 1970. -/
def epochDays : Nat := 719468

/-- The year, among 400, of a day counted from their beginning. The correction leaves out the leap
days passed so far. -/
def yearOfCycle (day : Nat) : Nat :=
  (day - day / 1460 + day / 36524 - day / 146096) / 365

/-- The day of the year, counted from zero, of a day counted from the beginning of 400 years. -/
def dayOfYear (day : Nat) : Nat :=
  let year := yearOfCycle day
  day - (365 * year + year / 4 - year / 100)

/-- The month, counted from March, of a day of the year. Five months in a row have 153 days. -/
def monthOfYear (day : Nat) : Nat := (5 * day + 2) / 153

/-- The day of the month, counted from zero, of a day of the year. -/
def dayOfMonth (day : Nat) : Nat := day - (153 * monthOfYear day + 2) / 5

/-- A date. -/
structure Date where
  /-- The year. -/
  year : Nat
  /-- The month, from 1 to 12. -/
  month : Nat
  /-- The day of the month, from 1 on. -/
  day : Nat
deriving DecidableEq, Repr

/-- The date of a day, counted from zero, of a year that begins in March. -/
def Date.ofMarch (year ofYear : Nat) : Date :=
  let month := monthOfYear ofYear
  if month < 10 then ⟨year, month + 3, dayOfMonth ofYear + 1⟩
  else ⟨year + 1, month - 9, dayOfMonth ofYear + 1⟩

/-- The date of a day, counted from the first of March of the year 0. -/
def Date.ofDay (day : Nat) : Date :=
  let ofCycle := day % cycleDays
  .ofMarch (yearOfCycle ofCycle + 400 * (day / cycleDays)) (dayOfYear ofCycle)

/-- The date of a moment. -/
def date (m : Moment) : Date := .ofDay (m.seconds / 86400 + epochDays)

/-- A number with zeros in front up to a width. -/
def padded (width n : Nat) : String :=
  let digits := toString n
  String.ofList (List.replicate (width - digits.length) '0') ++ digits

/-- A moment as it is written. -/
def text (m : Moment) : String :=
  let d := m.date
  let time := m.seconds % 86400
  padded 4 d.year ++ "-" ++ padded 2 d.month ++ "-" ++ padded 2 d.day ++ "T" ++
    padded 2 (time / 3600) ++ ":" ++ padded 2 (time / 60 % 60) ++ ":" ++ padded 2 (time % 60) ++ "Z"

end Moment

end TextTemplate
