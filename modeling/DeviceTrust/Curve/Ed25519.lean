import DeviceTrust.Curve.X25519
import DeviceTrust.Hash.Sha2

/-!
# Ed25519 signatures

Signing and verification on the twisted Edwards curve `-x² + y² = 1 + d x² y²`. Verification
compares encodings without a cofactor: the encoding of `[S]B - [k]A` must be the first half of the
signature. A public key whose `y` is not reduced, or whose point has small order, is accepted.
-/

set_option autoImplicit false

namespace DeviceTrust.Ed25519

def prime : Nat := X25519.prime

def order : Nat := 1 <<< 252 + 27742317777372353535851937790883648493

/-- The curve's constant, `-121665 / 121666`. -/
def d : Nat := 37095705934669439343138083508754565189542113879843219016388785533085940283555

def rootOfMinusOne : Nat :=
  19681161376707505956807079304988542015446066515923890162744021073123829784752

/-- A point in extended coordinates: `x = X / Z`, `y = Y / Z`, `x y = T / Z`. -/
structure Point where
  x : Nat
  y : Nat
  z : Nat
  t : Nat

namespace Point

def zero : Point := ⟨0, 1, 1, 0⟩

def ofAffine (x y : Nat) : Point := ⟨x, y, 1, Modular.mul prime x y⟩

def base : Point := ofAffine
  15112221349535400772501151409588531511454012693041857206046113283949847762202
  46316835694926478169428394003475163141307993866256225615783033603165251855960

/-- The sum of two points; the law has no exceptions on this curve. -/
def add (p q : Point) : Point :=
  let a := Modular.mul prime (Modular.sub prime p.y p.x) (Modular.sub prime q.y q.x)
  let b := Modular.mul prime (Modular.add prime p.y p.x) (Modular.add prime q.y q.x)
  let c := Modular.mul prime (Modular.mul prime p.t (2 * d)) q.t
  let dd := Modular.mul prime (Modular.mul prime p.z 2) q.z
  let e := Modular.sub prime b a
  let f := Modular.sub prime dd c
  let g := Modular.add prime dd c
  let h := Modular.add prime b a
  ⟨Modular.mul prime e f, Modular.mul prime g h, Modular.mul prime f g, Modular.mul prime e h⟩

def neg (p : Point) : Point := ⟨Modular.sub prime 0 p.x, p.y, p.z, Modular.sub prime 0 p.t⟩

/-- A multiple of a point, by doubling and adding. -/
def multiple (k : Nat) (p : Point) : Point :=
  (Modular.allBits k).foldl
    (fun acc bit =>
      let twice := add acc acc
      if bit then add twice p else twice)
    zero

/-- The 32 bytes of a point: `y` with the lowest bit of `x` on top. -/
def encode (p : Point) : Bytes :=
  let zi := Modular.inv prime p.z
  let x := Modular.mul prime p.x zi
  let y := Modular.mul prime p.y zi
  Bytes.ofNatLE 32 (y + (x % 2) <<< 255)

def sqrtRatio? (u v : Nat) : Option Nat :=
  let v3 := Modular.mul prime (Modular.mul prime v v) v
  let v7 := Modular.mul prime (Modular.mul prime v3 v3) v
  let r := Modular.mul prime (Modular.mul prime u v3)
    (Modular.pow prime (Modular.mul prime u v7) ((prime - 5) / 8))
  let check := Modular.mul prime v (Modular.mul prime r r)
  if check = u then some r
  else if check = Modular.sub prime 0 u then some (Modular.mul prime r rootOfMinusOne)
  else none

/-- The point that 32 bytes stand for. The coordinate `y` need not be reduced; a sign bit on
`x = 0` has no effect. -/
def decode? (b : Bytes) : Option Point :=
  let n := Bytes.toNatLE b
  let y := n % (1 <<< 255) % prime
  let yy := Modular.mul prime y y
  let u := Modular.sub prime yy 1
  let v := Modular.add prime (Modular.mul prime d yy) 1
  (sqrtRatio? u v).map fun x =>
    ofAffine (if x % 2 = n >>> 255 then x else Modular.sub prime 0 x) y

end Point

/-- A hash as a number modulo the order of the base point. -/
def hashScalar (b : Bytes) : Nat := Bytes.toNatLE (Hash.sha512 b) % order

def scalar (key : Bytes) : Nat := X25519.scalar ((Hash.sha512 key).take 32)

def publicOf (key : Bytes) : Bytes := (Point.multiple (scalar key) Point.base).encode

/-- The signature of a message: the commitment's encoding, then the response. -/
def sign (key message : Bytes) : Bytes :=
  let r := hashScalar ((Hash.sha512 key).drop 32 ++ message)
  let commitment := (Point.multiple r Point.base).encode
  let k := hashScalar (commitment ++ publicOf key ++ message)
  commitment ++ Bytes.ofNatLE 32 ((r + k * scalar key) % order)

def verify (publicKey signature message : Bytes) : Bool :=
  let commitment := signature.take 32
  let response := Bytes.toNatLE (signature.drop 32)
  signature.length == 64 && decide (response < order) &&
    match Point.decode? publicKey with
    | none => false
    | some a =>
      let k := hashScalar (commitment ++ publicKey ++ message)
      let r := (Point.multiple response Point.base).add (Point.multiple k a.neg)
      r.encode == commitment

@[simp] theorem length_publicOf (key : Bytes) : (publicOf key).length = 32 :=
  Bytes.length_ofNatLE _ _

@[simp] theorem length_sign (key message : Bytes) : (sign key message).length = 64 := by
  simp [sign, Point.encode]

end DeviceTrust.Ed25519
