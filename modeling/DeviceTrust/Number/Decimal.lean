import DeviceTrust.Number.Exact
import DeviceTrust.Number.Shortest

/-!
# Decimal arithmetic

A decimal number is a coefficient and a power of ten. What can be written down exactly is bounded
by eighteen digits of the exponent; what is computed keeps twenty-eight significant digits and
exponents of six digits. Results are rounded to the nearest number, to the even one of two.
-/

set_option autoImplicit false

namespace DeviceTrust

/-- The decimal number `± coefficient * 10 ^ exponent`. -/
structure Decimal where
  negative : Bool
  coefficient : Nat
  exponent : Int
  deriving DecidableEq, Repr

namespace Decimal

/-- The number of digits of the coefficient; zero has one. -/
def digits (x : Decimal) : Nat := Shortest.decimalLength x.coefficient

/-- The exponent of the leading digit. -/
def leading (x : Decimal) : Int := x.exponent + x.digits - 1

def exact (x : Decimal) : Exact :=
  .ofDecimal (Binary64.signed x.negative x.coefficient) x.exponent

/-! ## Numbers as they are written -/

/-- The greatest exponent of the leading digit of a written number. -/
def greatestWritten : Int := 999999999999999999

def leastWritten : Int := -1999999999999999997

/-- The number `coefficient * 10 ^ exponent`; none if it is beyond what can be written. -/
def written? (coefficient exponent : Int) : Option Decimal :=
  let x : Decimal := ⟨decide (coefficient < 0), coefficient.natAbs, exponent⟩
  if leastWritten ≤ exponent && x.leading ≤ greatestWritten then some x else none

/-! ## Numbers as they are computed -/

def precision : Nat := 28

def greatestLeading : Int := 999999

/-- The least exponent of a result: below it digits are lost. -/
def leastExponent : Int := -1000026

/-- A number with its last `count` digits rounded away. -/
def dropDigits (count : Nat) (x : Decimal) : Decimal :=
  ⟨x.negative, Binary64.roundedQuotient x.coefficient (Shortest.tenTo count), x.exponent + count⟩

/-- A number rounded to some significant digits. A coefficient that is rounded up to a power of ten
has one digit too many, a zero. -/
def rounded (digits : Nat) (x : Decimal) : Decimal :=
  if x.digits ≤ digits then x
  else
    let y := x.dropDigits (x.digits - digits)
    if y.digits ≤ digits then y else y.dropDigits 1

/-- A result as it is given: rounded, and zero if it is too small; none if it is too great. -/
def finished? (x : Decimal) : Option Decimal :=
  if x.coefficient = 0 then
    some ⟨x.negative, 0, max leastExponent (min x.exponent greatestLeading)⟩
  else if x.leading < leastExponent - 1 then some ⟨x.negative, 0, leastExponent⟩
  else
    let x := x.rounded precision
    let x := if x.exponent < leastExponent then x.dropDigits (leastExponent - x.exponent).toNat
      else x
    if greatestLeading < x.leading then none else some x

/-- The product of two numbers, unrounded. -/
def times (x y : Decimal) : Decimal :=
  ⟨x.negative != y.negative, x.coefficient * y.coefficient, x.exponent + y.exponent⟩

/-- A power of a number by repeated squaring, from the highest binary digit of the exponent to the
lowest; every step is rounded to some digits. At most `fuel` binary digits are read. -/
def power (digits : Nat) (base : Decimal) : (fuel : Nat) → Nat → Decimal
  | 0, _ => ⟨false, 1, 0⟩
  | fuel + 1, n =>
    if n = 0 then ⟨false, 1, 0⟩
    else if n = 1 then base
    else
      let half := power digits base fuel (n / 2)
      let square := (half.times half).rounded digits
      if n % 2 = 0 then square else (square.times base).rounded digits

/-- Exponents of two from here on give a result that is too great. -/
def greatestTwos : Nat := 3400000

/-- A power of two; none if it is too great. A few more digits are carried than the result has. -/
def powerOfTwo? (exponent : Int) : Option Decimal :=
  let n := exponent.natAbs
  let carried := precision + Shortest.decimalLength n + 2
  if exponent < 0 then
    if greatestTwos < n then some ⟨false, 0, leastExponent⟩
    else finished? (power (carried + 1) ⟨false, 5, -1⟩ (n.log2 + 1) n)
  else if greatestTwos < n then none
  else finished? (power carried ⟨false, 2, 0⟩ (n.log2 + 1) n)

/-- The number `coefficient * 2 ^ exponent`; none if it, or the power of two, is too great. -/
def scaledByTwo? (coefficient exponent : Int) : Option Decimal := do
  let power ← powerOfTwo? exponent
  finished? ((⟨decide (coefficient < 0), coefficient.natAbs, 0⟩ : Decimal).times power)

end Decimal

end DeviceTrust
