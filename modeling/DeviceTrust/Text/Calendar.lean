/-!
# The calendar

Days of the Gregorian calendar from the year 1 to the year 9999, counted from the start of 1970,
named by month and day or by week and weekday.
-/

set_option autoImplicit false

namespace DeviceTrust.Text

def isLeapYear (y : Nat) : Bool := y % 4 == 0 && (y % 100 != 0 || y % 400 == 0)

def daysInMonth (y m : Nat) : Nat :=
  if m = 2 then (if isLeapYear y then 29 else 28)
  else if m = 4 || m = 6 || m = 9 || m = 11 then 30
  else 31

def isDay (y m d : Nat) : Bool :=
  decide (1 ≤ y) && decide (y ≤ 9999) && decide (1 ≤ m) && decide (m ≤ 12) && decide (1 ≤ d)
    && decide (d ≤ daysInMonth y m)

/-- Whether a number of days from the start of 1970 lies within the calendar's range. -/
def isEpochDay (days : Int) : Bool := decide (-719162 ≤ days) && decide (days ≤ 2932896)

/-- The number of days from the start of the year 1 to the start of a year. -/
def daysBeforeYear (y : Nat) : Nat := 365 * (y - 1) + (y - 1) / 4 - (y - 1) / 100 + (y - 1) / 400

/-- The number of days from the start of a year to the start of its month `m + 1`. -/
def daysOfMonths (y : Nat) : (m : Nat) → Nat
  | 0 => 0
  | m + 1 => daysOfMonths y m + daysInMonth y (m + 1)

/-- The first day of a year, counted from the start of 1970. -/
def newYear (y : Nat) : Int := (daysBeforeYear y : Int) - 719162

def dayOfDate? (y m d : Nat) : Option Int :=
  if isDay y m d then some (newYear y + daysOfMonths y (m - 1) + (d - 1)) else none

/-! ## Weeks -/

/-- The weekday of a day; Monday is 0. -/
def weekday (day : Int) : Int := (day + 3) % 7

/-- The Monday of the first week of a year: of the week that holds its first Thursday. -/
def firstMonday (y : Nat) : Int :=
  let w := weekday (newYear y)
  newYear y - w + (if 3 < w then 7 else 0)

/-- Whether a year has fifty-three weeks: it starts on a Thursday, or as a leap year on a
Wednesday. -/
def isLongYear (y : Nat) : Bool :=
  let w := weekday (newYear y)
  w == 3 || (w == 2 && isLeapYear y)

/-- The day with a year, a week of the year and a day of the week, which runs from 1 to 7. -/
def dayOfWeek? (y w d : Nat) : Option Int :=
  if 1 ≤ y && y ≤ 9999 && 1 ≤ w && (w ≤ 52 || (w == 53 && isLongYear y)) && 1 ≤ d && d ≤ 7 then
    let day := firstMonday y + 7 * (w - 1) + (d - 1)
    if isEpochDay day then some day else none
  else none

end DeviceTrust.Text
