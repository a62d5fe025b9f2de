import DeviceTrust.Text.Timestamp

/-!
# Dates and points in time as text

The standard form of a date, `2013-03-21`, and of a point in time, `2013-03-21T20:04:00Z`. A
fraction of a second and a zone other than universal time are written only if they are there.
-/

set_option autoImplicit false

namespace DeviceTrust.Text

/-- The decimal digits of a number, zeros in front up to a width. -/
def padded (width n : Nat) : String :=
  let digits := Nat.toDigits 10 n
  String.ofList (List.replicate (width - digits.length) '0' ++ digits)

/-- The month and the day of the month, from a day of the year that starts with 0; at most `fuel`
months are passed from month `m` on. -/
def monthAndDay (y : Nat) : (fuel m day : Nat) → Nat × Nat
  | 0, m, day => (m, day + 1)
  | fuel + 1, m, day =>
    if day < daysInMonth y m then (m, day + 1)
    else monthAndDay y fuel (m + 1) (day - daysInMonth y m)

/-- The year that holds a day, counted from the start of the year 1, and the day of that year. A
cycle of four hundred years has 146097 days; the last year of a century and of four years can be
one day longer than the others. -/
def yearAndDay (day : Nat) : Nat × Nat :=
  let (cycles, day) := (day / 146097, day % 146097)
  let centuries := min 3 (day / 36524)
  let day := day - 36524 * centuries
  let (fours, day) := (day / 1461, day % 1461)
  let years := min 3 (day / 365)
  (400 * cycles + 100 * centuries + 4 * fours + years + 1, day - 365 * years)

def dateForm (day : Int) : String :=
  let (y, rest) := yearAndDay (day + 719162).toNat
  let (m, d) := monthAndDay y 12 1 rest
  padded 4 y ++ "-" ++ padded 2 m ++ "-" ++ padded 2 d

/-- The text of a time of day or an offset, in microseconds; `full` says whether seconds are always
written. -/
def clockForm (full : Bool) (microseconds : Nat) : String :=
  let seconds := microseconds / 1000000
  let fraction := microseconds % 1000000
  let minutes := padded 2 (seconds / 3600) ++ ":" ++ padded 2 (seconds / 60 % 60)
  if fraction ≠ 0 then minutes ++ ":" ++ padded 2 (seconds % 60) ++ "." ++ padded 6 fraction
  else if full || seconds % 60 ≠ 0 then minutes ++ ":" ++ padded 2 (seconds % 60)
  else minutes

def offsetForm (offset : Int) : String :=
  if offset = 0 then "Z"
  else (if offset < 0 then "-" else "+") ++ clockForm false offset.natAbs

/-- The text of a point in time that has a zone. -/
def momentForm? (m : Moment) : Option String :=
  m.offset?.map fun offset =>
    let here := m.microseconds + offset
    dateForm (here / 86400000000) ++ "T" ++ clockForm true (here % 86400000000).toNat
      ++ offsetForm offset

end DeviceTrust.Text
