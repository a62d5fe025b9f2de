/-!
# Double-precision numbers as bits

A floating-point number is kept as its sixty-four bits, so that a not-a-number keeps its payload
and zero its sign. This module reads the bits, widens the half and single formats, and compares a
number with an integer or another number by exact value; sums and fractions are rounded once, to
the nearest number.
-/

set_option autoImplicit false

namespace DeviceTrust

/-- A double-precision floating-point number, as its bits. -/
structure Binary64 where
  bits : UInt64
  deriving DecidableEq, Repr

namespace Binary64

/-- What the bits stand for. A finite number is `± m * 2 ^ q`. -/
inductive Meaning where
  | notANumber
  | infinite (negative : Bool)
  | finite (negative : Bool) (m : Nat) (q : Int)

def negative (x : Binary64) : Bool := x.bits >>> 63 != 0

def exponentField (x : Binary64) : Nat := (x.bits.toNat >>> 52) % 2048

def fractionField (x : Binary64) : Nat := x.bits.toNat % (1 <<< 52)

def meaning (x : Binary64) : Meaning :=
  let e := x.exponentField
  let f := x.fractionField
  if e = 2047 then (if f = 0 then .infinite x.negative else .notANumber)
  else if e = 0 then .finite x.negative f (-1074)
  else .finite x.negative (f + 1 <<< 52) ((e : Int) - 1075)

def isNaN (x : Binary64) : Bool := x.exponentField == 2047 && x.fractionField != 0

/-- Whether the number is zero, of either sign. -/
def isZero (x : Binary64) : Bool := x.exponentField == 0 && x.fractionField == 0

/-! ## Narrower formats -/

/-- The double with the same value as a number of a narrower format with `e` exponent bits and
`f` fraction bits. A not-a-number keeps its payload in the upper bits of the fraction. -/
def widen (e f : Nat) (bits : Nat) : Binary64 :=
  let fraction := bits % (1 <<< f)
  let exponent := (bits >>> f) % (1 <<< e)
  let sign := (bits >>> (e + f)) % 2
  let bias := 1 <<< (e - 1) - 1
  let body :=
    if exponent = 1 <<< e - 1 then 2047 <<< 52 + fraction <<< (52 - f)
    else if exponent = 0 then
      if fraction = 0 then 0
      else
        let top := fraction.log2
        (top + 1024 - bias - f) <<< 52 + (fraction - 1 <<< top) <<< (52 - top)
    else (exponent + 1023 - bias) <<< 52 + fraction <<< (52 - f)
  ⟨UInt64.ofNat (sign <<< 63 + body)⟩

def ofHalf (bits : Nat) : Binary64 := widen 5 10 bits

def ofSingle (bits : Nat) : Binary64 := widen 8 23 bits

/-! ## Exact values -/

def signed (negative : Bool) (n : Nat) : Int := if negative then -(n : Int) else n

/-- The integer nearest to a finite number on the side of zero. -/
def truncate (negative : Bool) (m : Nat) (q : Int) : Int :=
  signed negative (if 0 ≤ q then m <<< q.toNat else m >>> (-q).toNat)

def equalsInt (x : Binary64) (i : Int) : Bool :=
  match x.meaning with
  | .finite negative m q =>
    if 0 ≤ q then signed negative (m <<< q.toNat) == i
    else m % (1 <<< (-q).toNat) == 0 && signed negative (m >>> (-q).toNat) == i
  | _ => false

/-- Whether two numbers have the same value: a not-a-number equals nothing, and both zeros are
one. -/
def equals (x y : Binary64) : Bool :=
  !x.isNaN && !y.isNaN && (x.bits == y.bits || (x.isZero && y.isZero))

/-- Whether a number is below an integer; a not-a-number is not. -/
def lessThanInt (x : Binary64) (i : Int) : Bool :=
  match x.meaning with
  | .notANumber => false
  | .infinite negative => negative
  | .finite negative m q =>
    if 0 ≤ q then signed negative (m <<< q.toNat) < i
    else signed negative m < i * ((1 <<< (-q).toNat : Nat) : Int)

/-! ## Not-a-numbers -/

def notANumber : Binary64 := ⟨0x7ff8000000000000⟩

/-- A number as it is; of a not-a-number the payload is dropped. -/
def withoutPayload (x : Binary64) : Binary64 := if x.isNaN then notANumber else x

/-- Whether two not-a-numbers have the same payload; no payload is not the same as none. -/
def sharesPayload (x y : Binary64) : Bool :=
  x.isNaN && x.bits == y.bits && x.bits != notANumber.bits

def infinity (negative : Bool) : Binary64 :=
  if negative then ⟨0xfff0000000000000⟩ else ⟨0x7ff0000000000000⟩

/-! ## Rounding -/

/-- The quotient of two natural numbers as an integer, rounded to the nearest one, to the even one
of two. -/
def roundedQuotient (n d : Nat) : Nat :=
  let below := n / d
  let rest := 2 * (n % d)
  if rest < d || (rest == d && below % 2 == 0) then below else below + 1

/-- The number nearest to the fraction `± n / d`, the even one of two; none if the fraction is
beyond all numbers. Its spacing is a power of two of at least `2 ^ -1074`, with fifty-three
significant digits at the most; a significand that is rounded up carries into the exponent. -/
def nearest? (negative : Bool) (n d : Nat) : Option Binary64 :=
  let scaled (q : Int) : Nat × Nat := (n <<< (-q).toNat, d <<< q.toNat)
  let low := (n.log2 : Int) - d.log2 - 53
  let (a, b) := scaled low
  let q := max (if a / b < 1 <<< 53 then low else low + 1) (-1074)
  let (a, b) := scaled q
  let bits := (q + 1074).toNat <<< 52 + roundedQuotient a b
  if n = 0 then some ⟨0⟩
  else if bits < 0x7ff0000000000000 then
    some ⟨UInt64.ofNat ((if negative then 1 <<< 63 else 0) + bits)⟩
  else none

def plus (x y : Binary64) : Binary64 :=
  match x.meaning, y.meaning with
  | .notANumber, _ | _, .notANumber => notANumber
  | .infinite a, .infinite b => if a == b then infinity a else notANumber
  | .infinite a, _ | _, .infinite a => infinity a
  | .finite a m p, .finite b n q =>
    let least := min p q
    let total := signed a (m <<< (p - least).toNat) + signed b (n <<< (q - least).toNat)
    let negative := decide (total < 0)
    (nearest? negative (total.natAbs <<< least.toNat) (1 <<< (-least).toNat)).getD
      (infinity negative)

def negated (x : Binary64) : Binary64 := ⟨x.bits ^^^ 0x8000000000000000⟩

end Binary64

end DeviceTrust
