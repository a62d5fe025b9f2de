import DeviceTrust.Bytes
import DeviceTrust.Curve.Modular

/-!
# X25519

Diffie-Hellman on the Montgomery curve `v² = u³ + 486662u² + u` over the integers modulo
`2²⁵⁵ - 19`, with `u`-coordinates only. Any 32 bytes are a public key and any 32 bytes are a
private key.
-/

set_option autoImplicit false

namespace DeviceTrust.X25519

/-- The field's prime, `2²⁵⁵ - 19`. -/
def prime : Nat := 1 <<< 255 - 19

/-- The scalar of a private key: the three lowest bits and the top bit cleared, the next one set. -/
def scalar (key : Bytes) : Nat :=
  let n := Bytes.toNatLE key % (1 <<< 254)
  n - n % 8 + 1 <<< 254

/-- The coordinate of a public key: the top bit is ignored and the rest is reduced. -/
def coordinate (key : Bytes) : Nat := Bytes.toNatLE key % (1 <<< 255) % prime

/-- Two points whose difference is known, in projective coordinates. -/
structure Pair where
  x2 : Nat
  z2 : Nat
  x3 : Nat
  z3 : Nat

/-- The doubled first point and the sum of both; `u` is the coordinate of their difference. -/
def Pair.advance (u : Nat) (s : Pair) : Pair :=
  let a := Modular.add prime s.x2 s.z2
  let aa := Modular.mul prime a a
  let b := Modular.sub prime s.x2 s.z2
  let bb := Modular.mul prime b b
  let e := Modular.sub prime aa bb
  let c := Modular.add prime s.x3 s.z3
  let d := Modular.sub prime s.x3 s.z3
  let da := Modular.mul prime d a
  let cb := Modular.mul prime c b
  let sum := Modular.add prime da cb
  let difference := Modular.sub prime da cb
  { x2 := Modular.mul prime aa bb
    z2 := Modular.mul prime e (Modular.add prime aa (Modular.mul prime 121665 e))
    x3 := Modular.mul prime sum sum
    z3 := Modular.mul prime u (Modular.mul prime difference difference) }

def Pair.exchange (s : Pair) : Pair := ⟨s.x3, s.z3, s.x2, s.z2⟩

/-- One step of the ladder: the doubled point is the second one when the bit is set. -/
def Pair.step (u : Nat) (s : Pair) (bit : Bool) : Pair :=
  if bit then (s.exchange.advance u).exchange else s.advance u

def ladder (k u : Nat) : Nat :=
  let s := (Modular.bits 255 k).foldl (Pair.step u) ⟨1, 0, u, 1⟩
  Modular.mul prime s.x2 (Modular.inv prime s.z2)

def shared (privateKey publicKey : Bytes) : Bytes :=
  Bytes.ofNatLE 32 (ladder (scalar privateKey) (coordinate publicKey))

/-- The public key of a private key: the multiple of the base point 9. -/
def publicOf (privateKey : Bytes) : Bytes := Bytes.ofNatLE 32 (ladder (scalar privateKey) 9)

@[simp] theorem length_shared (privateKey publicKey : Bytes) :
    (shared privateKey publicKey).length = 32 := Bytes.length_ofNatLE _ _

@[simp] theorem length_publicOf (privateKey : Bytes) : (publicOf privateKey).length = 32 :=
  Bytes.length_ofNatLE _ _

end DeviceTrust.X25519
