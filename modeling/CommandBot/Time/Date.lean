/-
**Dates of the Gregorian calendar.**

Days are numbered from the first of January 1970.  A date is found from its day in two steps: the
year, by an estimate that is at most one off, and then the month, by walking along the months of
that year.

* `CommandBot.Date` — a year, a month and a day of the month;
* `CommandBot.Date.dayNumber` — the number of a date's day;
* `CommandBot.Date.ofDayNumber` — the date of a day;
* `CommandBot.Date.Exists` — the dates that the calendar has.
-/

set_option relaxedAutoImplicit false
set_option autoImplicit false

namespace CommandBot

/-- A year, a month from 1 and a day of the month from 1. -/
structure Date where
  /-- The year, which may be negative. -/
  year : Int
  /-- The month. -/
  month : Nat
  /-- The day of the month. -/
  day : Nat
deriving DecidableEq, Repr

namespace Date

/-! ### Years -/

/-- Every fourth year is a leap year, except the hundredth ones, except the four-hundredth ones. -/
def isLeap (year : Int) : Bool := year % 4 = 0 ∧ (year % 100 ≠ 0 ∨ year % 400 = 0)

/-- The number of days between the first day of year 0 and that of `year`. -/
def daysBeforeYear (year : Int) : Int :=
  365 * year + (year - 1) / 4 - (year - 1) / 100 + (year - 1) / 400 + 1

/-- The year that holds the day which comes `days` after the first day of year 0. -/
def yearAt (days : Int) : Int :=
  -- 400 years have 146097 days, so the guess is at most one year off
  let guess := 400 * days / 146097
  if days < daysBeforeYear guess then guess - 1
  else if daysBeforeYear (guess + 1) ≤ days then guess + 1
  else guess

/-! ### Months -/

/-- The lengths of the months of a year. -/
def monthLengths (leap : Bool) : List Nat :=
  [31, if leap then 29 else 28, 31, 30, 31, 30, 31, 31, 30, 31, 30, 31]

/-- The month and the day of the month that come `days` days after the beginning of the month
`month`, whose length heads the list. -/
def monthAt : List Nat → Nat → Nat → Nat × Nat
  | [], month, days => (month, days + 1)
  | length :: rest, month, days =>
      if days < length then (month, days + 1) else monthAt rest (month + 1) (days - length)

/-- The number of days of a year that come before a month. -/
def daysBeforeMonth (leap : Bool) (month : Nat) : Nat :=
  ((monthLengths leap).take (month - 1)).foldr (· + ·) 0

/-! ### Days -/

/-- The day of the first of January 1970, counted from the first day of year 0. -/
def epoch : Int := 719528

/-- The calendar has the date. -/
def Exists (d : Date) : Prop :=
  1 ≤ d.month ∧ d.month ≤ 12 ∧ 1 ≤ d.day ∧
    d.day ≤ (monthLengths (isLeap d.year)).getD (d.month - 1) 0

instance (d : Date) : Decidable d.Exists := by unfold Exists; infer_instance

/-- **The number of a date's day**, counted from the first of January 1970. -/
def dayNumber (d : Date) : Int :=
  daysBeforeYear d.year + (daysBeforeMonth (isLeap d.year) d.month : Nat) + (d.day : Int) - 1 -
    epoch

/-- **The date of a day.** -/
def ofDayNumber (n : Int) : Date :=
  let days := n + epoch
  let year := yearAt days
  let found := monthAt (monthLengths (isLeap year)) 1 (days - daysBeforeYear year).toNat
  ⟨year, found.1, found.2⟩

end Date

end CommandBot
