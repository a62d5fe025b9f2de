import DeviceTrust.Number.Binary64

/-!
# Exact numbers

A rational number of any size in one form only: its factors two and five are set apart as
exponents, and what is left is a fraction in lowest terms. So a decimal number with an exponent of
eighteen digits is as small to write as any other, and two numbers are equal exactly if their forms
are.
-/

set_option autoImplicit false

namespace DeviceTrust

/-- The number `± numerator / denominator * 2 ^ twos * 5 ^ fives`. The fraction is in lowest terms
and neither half of it has a factor two or five; zero is `0 / 1`, without a sign or exponents. -/
structure Exact where
  negative : Bool
  numerator : Nat
  denominator : Nat
  twos : Int
  fives : Int
  deriving DecidableEq, Repr

namespace Exact

def zero : Exact := ⟨false, 0, 1, 0, 0⟩

def isZero (x : Exact) : Bool := x.numerator == 0

/-! ## The form of a number -/

/-- Divides a number by a factor as often as it can be divided, at most `fuel` times: what is left,
and how often it was divided. -/
def takeOut (factor : Nat) : (fuel : Nat) → Nat → Nat × Nat
  | 0, n => (n, 0)
  | fuel + 1, n =>
    if n % factor = 0 then
      let (rest, count) := takeOut factor fuel (n / factor)
      (rest, count + 1)
    else (n, 0)

/-- A positive number as `rest * 2 ^ twos * 5 ^ fives`. -/
structure Factored where
  rest : Nat
  twos : Nat
  fives : Nat

/-- The factors two and five of a positive number set apart. A number has fewer of them than binary
digits. -/
def Factored.of (n : Nat) : Factored :=
  let (odd, twos) := takeOut 2 (n.log2 + 1) n
  let (rest, fives) := takeOut 5 (n.log2 + 1) odd
  ⟨rest, twos, fives⟩

/-- The number `± n / d * 2 ^ twos * 5 ^ fives`, for a positive `d`. -/
def make (negative : Bool) (n d : Nat) (twos fives : Int) : Exact :=
  if n = 0 then zero
  else
    let common := Nat.gcd n d
    let above := Factored.of (n / common)
    let below := Factored.of (d / common)
    ⟨negative, above.rest, below.rest, twos + above.twos - below.twos,
      fives + above.fives - below.fives⟩

def ofInt (i : Int) : Exact := make (decide (i < 0)) i.natAbs 1 0 0

/-- The decimal number `coefficient * 10 ^ exponent`. -/
def ofDecimal (coefficient exponent : Int) : Exact :=
  make (decide (coefficient < 0)) coefficient.natAbs 1 exponent exponent

def ofBinary64? (x : Binary64) : Option Exact :=
  match x.meaning with
  | .finite negative m q => some (make negative m 1 q 0)
  | _ => none

/-- The quotient of two numbers; none if the second is zero. -/
def quotient? (x y : Exact) : Option Exact :=
  if y.isZero then none
  else some (make (x.negative != y.negative) (x.numerator * y.denominator)
    (x.denominator * y.numerator) (x.twos - y.twos) (x.fives - y.fives))

/-! ## Written out -/

/-- Above and below the line of a number. -/
def fraction (x : Exact) : Nat × Nat :=
  (x.numerator * Nat.pow 5 x.fives.toNat <<< x.twos.toNat,
    x.denominator * Nat.pow 5 (-x.fives).toNat <<< (-x.twos).toNat)

/-- Whether a number is seen to be below one by its exponents: the factor five has between two and
three binary digits. -/
def isTiny (x : Exact) : Bool :=
  x.numerator.log2 + 1 + x.twos.toNat + 3 * x.fives.toNat
    ≤ x.denominator.log2 + (-x.twos).toNat + 2 * (-x.fives).toNat

/-- The integer nearest to a number on the side of zero. A power of ten below the line can be too
great to be written out, and need not be. -/
def truncate (x : Exact) : Int :=
  if x.isTiny then 0 else Binary64.signed x.negative (x.fraction.1 / x.fraction.2)

def isInteger (x : Exact) : Bool := x.denominator == 1 && 0 ≤ x.twos && 0 ≤ x.fives

/-- How many binary digits a number has before the point, roughly; negative for zeros behind it. -/
def magnitude (x : Exact) : Int :=
  (x.numerator.log2 : Int) - x.denominator.log2 + x.twos + x.fives * 2322 / 1000

/-- The floating-point number nearest to a number; none if it is beyond all of them. -/
def toBinary64? (x : Exact) : Option Binary64 :=
  if x.isZero then some ⟨0⟩
  else if 4000 < x.magnitude then none
  else if x.magnitude < -4000 then some ⟨0⟩
  else Binary64.nearest? x.negative x.fraction.1 x.fraction.2

end Exact

end DeviceTrust
