import DeviceTrust.Bytes
import DeviceTrust.Number.Exact
import DeviceTrust.Text.Calendar

/-!
# Dates and points in time

Reads calendar dates and timestamps in the international text forms, with or without separators,
by month or by week, and numbers of seconds. The reader looks at bytes; a look beyond the end of a
text finds the byte 0. It is lenient where it can be: any one character may stand between date and
time, and one stray character may stand before a zone.
-/

set_option autoImplicit false

namespace DeviceTrust.Text

/-- A point in time, in microseconds from the start of 1970: in universal time if it has a zone,
which is known by its offset from universal time in microseconds, otherwise in a local time of which
no more is known. -/
structure Moment where
  microseconds : Int
  offset? : Option Int
  deriving DecidableEq, Repr

/-- Whether two points in time are the same; one with a zone is never the same as one without. -/
def Moment.same (a b : Moment) : Bool :=
  a.microseconds == b.microseconds && a.offset?.isSome == b.offset?.isSome

def byteAt (b : Bytes) (i : Nat) : UInt8 := b.getD i 0

def isDigitByte (x : UInt8) : Bool := 48 ≤ x && x ≤ 57

/-- The number written by exactly `count` digits from a position on. -/
def digitsAt? (b : Bytes) (i : Nat) : (count : Nat) → Option Nat
  | 0 => some 0
  | count + 1 => do
    let high ← digitsAt? b i count
    let x := byteAt b (i + count)
    if isDigitByte x then some (10 * high + (x.toNat - 48)) else none

/-- Where the run of digits from a position on ends. -/
def endOfDigits (b : Bytes) (i : Nat) : Nat := i + ((b.drop i).takeWhile isDigitByte).length

/-! ## Dates -/

def dash : UInt8 := 45

def weekLetter : UInt8 := 87

/-- Reads a date at the start of a text: a year and a month with a day, or a year and a week with
or without a weekday. The separator is used throughout or not at all. A week whose text ends at
`length` means its Monday. -/
def dateOf? (b : Bytes) (length : Nat) : Option Int := do
  let year ← digitsAt? b 0 4
  let separated := byteAt b 4 == dash
  let i := if separated then 5 else 4
  if byteAt b i = weekLetter then
    let week ← digitsAt? b (i + 1) 2
    let i := i + 3
    if length ≤ i then dayOfWeek? year week 1
    else
      if separated && byteAt b i != dash then none
      let weekday ← digitsAt? b (if separated then i + 1 else i) 1
      dayOfWeek? year week weekday
  else
    let month ← digitsAt? b i 2
    let i := i + 2
    if separated && byteAt b i != dash then none
    let day ← digitsAt? b (if separated then i + 1 else i) 2
    dayOfDate? year month day

def date? (s : String) : Option Int :=
  let b := Bytes.ofText s
  if b.length = 7 || b.length = 8 || b.length = 10 then dateOf? b b.length else none

/-! ## Times of day -/

/-- A time of day, or an offset from universal time. -/
structure Clock where
  hours : Nat
  minutes : Nat
  seconds : Nat
  microseconds : Nat

namespace Clock

def wholeSeconds (c : Clock) : Nat := 3600 * c.hours + 60 * c.minutes + c.seconds

/-- A time in microseconds. -/
def total (c : Clock) : Nat := 1000000 * c.wholeSeconds + c.microseconds

def isOfDay (c : Clock) : Bool := c.hours < 24 && c.minutes < 60 && c.seconds < 60

/-- The time with the given hours, minutes and seconds, as far as they are given. -/
def ofFields (fields : List Nat) (microseconds : Nat) : Clock :=
  ⟨fields.getD 0 0, fields.getD 1 0, fields.getD 2 0, microseconds⟩

end Clock

/-- Reads the fraction of a second from a position up to `stop`: at most six digits count, and more
digits are passed over. The flag says whether something is left after it. -/
def fractionOf? (b : Bytes) (i stop : Nat) : Option (Nat × Bool) := do
  let count := min 6 (stop - i)
  let digits ← digitsAt? b i count
  let scale := (List.replicate (6 - count) 10).foldl (· * ·) 1
  return (digits * scale, byteAt b (endOfDigits b (i + count)) != 0)

def colon : UInt8 := 58

def startsFraction (x : UInt8) : Bool := x == 46 || x == 44

/-- Reads the fields of a time from a position up to `stop`, after the fields already read; up to
`count` more may follow. Fields are separated throughout or not at all, which shows after the
first. The flag says whether something is left after the time. -/
def clockFields? (b : Bytes) (stop : Nat) :
    (count : Nat) → (fields : List Nat) → (separated : Bool) → (i : Nat) → Option (Clock × Bool)
  | 0, fields, _, i => do
    let (microseconds, more) ← fractionOf? b i stop
    return (.ofFields fields microseconds, more)
  | count + 1, fields, separated, i => do
    let field ← digitsAt? b i 2
    let next := byteAt b (i + 2)
    let separated := if fields.isEmpty then next == colon else separated
    let fields := fields ++ [field]
    if stop ≤ i + 3 then return (.ofFields fields 0, next != 0)
    else if separated && next == colon then clockFields? b stop count fields separated (i + 3)
    else if startsFraction next then
      let (microseconds, more) ← fractionOf? b (i + 3) stop
      return (.ofFields fields microseconds, more)
    else if !separated then clockFields? b stop count fields separated (i + 2)
    else none

/-- Reads a time from a position up to `stop`. -/
def clock? (b : Bytes) (i stop : Nat) : Option (Clock × Bool) := clockFields? b stop 3 [] true i

/-! ## Zones -/

/-- Whether a byte starts a zone: a sign, or the letter for universal time. -/
def startsZone (x : UInt8) : Bool := x == 43 || x == dash || x == 90

def universalLetter : UInt8 := 90

/-- The offset from universal time, in microseconds, of the zone that starts at a position and ends
the text; it is less than a day. An offset of no whole second is none. -/
def zoneOffset? (b : Bytes) (i : Nat) : Option Int :=
  if byteAt b i = universalLetter then (if byteAt b (i + 1) = 0 then some 0 else none)
  else
    match clock? b (i + 1) b.length with
    | some (offset, false) =>
      if offset.wholeSeconds = 0 then some 0
      else if offset.wholeSeconds < 86400 then
        some (if byteAt b i = dash then -(offset.total : Int) else offset.total)
      else none
    | _ => none

/-- A day and the time of day from a position to the end of a text, with or without a zone. -/
def momentOnDay? (b : Bytes) (day : Int) (i : Nat) : Option Moment := do
  let zone := i + max 1 ((b.drop i).takeWhile fun x => !startsZone x).length
  let zone := if startsZone (byteAt b i) then i else zone
  let (clock, more) ← clock? b i zone
  if !clock.isOfDay then none
  let time := 86400000000 * day + clock.total
  if zone = b.length then (if more then none else some ⟨time, none⟩)
  else do
    let offset ← zoneOffset? b zone
    return ⟨time - offset, some offset⟩

/-! ## Timestamps -/

/-- Where the date of a timestamp ends. The text has more than seven bytes. Where a dash after a
week could announce a weekday or a time, a second digit after it decides for the time; a week
without separators ends before an even number of digits. -/
def dateEnd (b : Bytes) : Nat :=
  if byteAt b 4 = dash then
    if byteAt b 5 = weekLetter then
      if 8 < b.length && byteAt b 8 == dash then
        if 10 < b.length && isDigitByte (byteAt b 10) then 8 else 10
      else 8
    else 10
  else if byteAt b 4 = weekLetter then
    let stop := endOfDigits b 7
    if stop < 9 then stop else if stop % 2 = 0 then 7 else 8
  else 8

/-- The number of bytes of the character that starts with a byte, in UTF-8. -/
def characterLength (first : UInt8) : Nat :=
  if first < 0x80 then 1 else if first < 0xe0 then 2 else if first < 0xf0 then 3 else 4

/-- The point in time that a text names: a date, which starts the day, or a date, any one character
and a time. -/
def timestamp? (s : String) : Option Moment :=
  let b := Bytes.ofText s
  if s.length < 7 then none
  else do
    let stop := if b.length = 7 then 7 else dateEnd b
    let day ← dateOf? b stop
    if b.length ≤ stop then return ⟨86400000000 * day, none⟩
    else momentOnDay? b day (stop + characterLength (byteAt b stop))

/-! ## Numbers of seconds -/

/-- Whether a number of seconds from the start of 1970 lies within the calendar's range. -/
def isEpoch (seconds : Int) : Bool :=
  decide (-62135596800 ≤ seconds) && decide (seconds < 253402300800)

def momentOfSeconds? (seconds : Int) : Option Moment :=
  if isEpoch seconds then some ⟨1000000 * seconds, some 0⟩ else none

/-- The point in time that is a fractional number of seconds from the start of 1970. The fraction
is rounded twice: to a number of microseconds as a floating-point number, then to a whole one. -/
def momentOfFloat? (x : Binary64) : Option Moment :=
  match x.meaning with
  | .finite negative m q =>
    if x.lessThanInt (-62135596800) || !x.lessThanInt 253402300800 then none
    else
      let parts : Nat := 1 <<< (-q).toNat
      let whole := Binary64.truncate negative m q
      let rest := if 0 ≤ q then 0 else m % parts
      let microseconds :=
        match (Binary64.nearest? false (1000000 * rest) parts).map Binary64.meaning with
        | some (.finite _ n r) => Binary64.roundedQuotient (n <<< r.toNat) (1 <<< (-r).toNat)
        | _ => 0
      some ⟨1000000 * whole + Binary64.signed negative microseconds, some 0⟩
  | _ => none

end DeviceTrust.Text
