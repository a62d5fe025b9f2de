import DeviceTrust.Curve.Modular

/-!
# Prime-order curves in Weierstrass form

The curves `y² = x³ - 3x + b` over a prime field whose group has prime order, with their addition
law in projective coordinates, and the two standard curves P-256 and P-384.
-/

set_option autoImplicit false

namespace DeviceTrust

/-- The parameters of a curve: its name, the field's prime, the order of the group, the constant
term, the base point, and the number of bytes of a coordinate. -/
structure Weierstrass where
  name : String
  prime : Nat
  order : Nat
  b : Nat
  baseX : Nat
  baseY : Nat
  size : Nat

namespace Weierstrass

/-- A point in projective coordinates: `x = X / Z`, `y = Y / Z`; `Z = 0` is the neutral element. -/
structure Point where
  x : Nat
  y : Nat
  z : Nat

variable (c : Weierstrass)

def zero : Point := ⟨0, 1, 0⟩

def base : Point := ⟨c.baseX, c.baseY, 1⟩

/-- The sum of two points. One law serves all cases, doubling and the neutral element included,
because a group of odd order has no point of order two. -/
def add (p q : Point) : Point :=
  let mul := Modular.mul c.prime
  let plus := Modular.add c.prime
  let minus := Modular.sub c.prime
  let xx := mul p.x q.x
  let yy := mul p.y q.y
  let zz := mul p.z q.z
  let xy := plus (mul p.x q.y) (mul q.x p.y)
  let yz := plus (mul p.y q.z) (mul q.y p.z)
  let xz := plus (mul p.x q.z) (mul q.x p.z)
  let linear := minus (mul (3 * c.b) zz) (mul 3 xz)
  let low := minus yy linear
  let high := plus yy linear
  let slope := minus (mul 3 xx) (mul 3 zz)
  let cross := minus (mul (3 * c.b) xz) (plus (mul 3 xx) (mul 9 zz))
  ⟨minus (mul xy low) (mul yz cross),
   plus (mul high low) (mul slope cross),
   plus (mul yz high) (mul xy slope)⟩

def multiple (k : Nat) (p : Point) : Point :=
  (Modular.allBits k).foldl
    (fun acc bit =>
      let twice := c.add acc acc
      if bit then c.add twice p else twice)
    zero

/-- The affine coordinates of a point; the neutral element has none. -/
def affine? (p : Point) : Option (Nat × Nat) :=
  if p.z = 0 then none
  else
    let zi := Modular.inv c.prime p.z
    some (Modular.mul c.prime p.x zi, Modular.mul c.prime p.y zi)

/-- Whether two numbers are the coordinates of a point: both below the prime, and on the curve. -/
def onCurve (x y : Nat) : Bool :=
  decide (x < c.prime) && decide (y < c.prime) &&
    (y * y % c.prime == (x * x * x + (c.prime - 3) * x + c.b) % c.prime)

/-- The affine coordinates of a multiple of the base point; the neutral element, which is no key,
shows as zeros. -/
def publicOf (d : Nat) : Nat × Nat := (c.affine? (c.multiple d c.base)).getD (0, 0)

end Weierstrass

def p256 : Weierstrass where
  name := "secp256r1"
  prime := 0xffffffff00000001000000000000000000000000ffffffffffffffffffffffff
  order := 0xffffffff00000000ffffffffffffffffbce6faada7179e84f3b9cac2fc632551
  b := 0x5ac635d8aa3a93e7b3ebbd55769886bc651d06b0cc53b0f63bce3c3e27d2604b
  baseX := 0x6b17d1f2e12c4247f8bce6e563a440f277037d812deb33a0f4a13945d898c296
  baseY := 0x4fe342e2fe1a7f9b8ee7eb4a7c0f9e162bce33576b315ececbb6406837bf51f5
  size := 32

def p384 : Weierstrass where
  name := "secp384r1"
  prime := 0xfffffffffffffffffffffffffffffffffffffffffffffffffffffffffffffffeffffffff0000000000000000ffffffff
  order := 0xffffffffffffffffffffffffffffffffffffffffffffffffc7634d81f4372ddf581a0db248b0a77aecec196accc52973
  b := 0xb3312fa7e23ee7e4988e056be3f82d19181d9c6efe8141120314088f5013875ac656398d8a2ed19d2a85c8edd3ec2aef
  baseX := 0xaa87ca22be8b05378eb1c71ef320ad746e1d3b628ba79b9859f741e082542a385502f25dbf55296c3a545e3872760ab7
  baseY := 0x3617de4a96262c6f5d9e98bf9292dc29f8f41dbd289a147ce9da3113b5f0b8c00a60b1ce1d7e819d7a431d7c90ea0e5f
  size := 48

end DeviceTrust
