import DeviceTrust.Number.Binary64

/-!
# The shortest decimal that reads back

A finite double is the centre of an interval of reals that round to it. Of all decimals in that
interval the text of the number has the fewest digits, and of those it is the one nearest to the
number. All comparisons are between natural numbers, so nothing is rounded on the way.
-/

set_option autoImplicit false

namespace DeviceTrust.Shortest

/-- The reals `(low / scale, high / scale)` that round to a number `value / scale`; the ends
belong to it when `closed`. -/
structure Interval where
  low : Nat
  value : Nat
  high : Nat
  scale : Nat
  closed : Bool

/-- The interval of the positive double `m * 2 ^ q`. Below the smallest significand of a binade
the next number is only half as far. -/
def interval (m : Nat) (q : Int) : Interval :=
  let narrow := m == 1 <<< 52 && decide (q > -1074)
  let up := if 0 ≤ q then 1 <<< q.toNat else 1
  let scale := if 0 ≤ q then 4 else 4 <<< (-q).toNat
  { low := (4 * m - (if narrow then 1 else 2)) * up
    value := 4 * m * up
    high := (4 * m + 2) * up
    scale := scale
    closed := m % 2 == 0 }

/-- Whether the real `n / d` lies in the interval. -/
def Interval.contains (i : Interval) (n d : Nat) : Bool :=
  if i.closed then decide (i.low * d ≤ n * i.scale) && decide (n * i.scale ≤ i.high * d)
  else decide (i.low * d < n * i.scale) && decide (n * i.scale < i.high * d)

def tenTo : Nat → Nat
  | 0 => 1
  | n + 1 => 10 * tenTo n

/-- The point of the grid of multiples of `10 ^ e` that lies in the interval and is nearest to
its value, as a multiple of the grid's step; the even one of two equally near. -/
def gridPoint? (i : Interval) (e : Int) : Option Nat :=
  let step := if 0 ≤ e then tenTo e.toNat else 1
  let parts := if 0 ≤ e then 1 else tenTo (-e).toNat
  -- the value in grid steps is `value * parts / (scale * step)`
  let numerator := i.value * parts
  let denominator := i.scale * step
  let below := numerator / denominator
  let rest := numerator % denominator
  let lowHit := i.contains (below * step) parts
  let highHit := i.contains ((below + 1) * step) parts
  if lowHit && highHit then
    if 2 * rest < denominator then some below
    else if denominator < 2 * rest then some (below + 1)
    else some (if below % 2 = 0 then below else below + 1)
  else if lowHit then some below
  else if highHit then some (below + 1)
  else none

/-- The first grid with a point in the interval, among the grids `10 ^ e`, `10 ^ (e - 1)`, … -/
def search (i : Interval) : (count : Nat) → (e : Int) → Nat × Int
  | 0, e => ((gridPoint? i e).getD 0, e)
  | count + 1, e =>
    match gridPoint? i e with
    | some (n + 1) => (n + 1, e)
    | _ => search i count (e - 1)

def decimalLength (n : Nat) : Nat := (Nat.toDigits 10 n).length

/-- Removes zeros at the end of a positive number, at most `fuel` of them. -/
def dropZeros : (fuel : Nat) → Nat → Int → Nat × Int
  | 0, n, e => (n, e)
  | fuel + 1, n, e => if n % 10 = 0 then dropZeros fuel (n / 10) (e + 1) else (n, e)

/-- The shortest decimal `n * 10 ^ e` that reads back as the positive double `m * 2 ^ q`. The
coarsest grid has a step of at least the number itself. -/
def decimal (m : Nat) (q : Int) : Nat × Int :=
  let i := interval m q
  let whole := i.value / i.scale
  let top : Int := if whole = 0 then 0 else decimalLength whole
  let (n, e) := search i 360 top
  dropZeros 20 n e

end DeviceTrust.Shortest
