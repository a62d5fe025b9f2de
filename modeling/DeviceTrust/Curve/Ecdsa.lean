import DeviceTrust.Bytes
import DeviceTrust.Curve.Weierstrass
import DeviceTrust.Hash.Sha2

/-!
# ECDSA on P-256 with SHA-256

A signature is a pair of numbers; its 64-byte form is the first number and then the second, each
in 32 bytes. Both forms of a pair with a high second number are accepted.
-/

set_option autoImplicit false

namespace DeviceTrust.Ecdsa

def digestNumber (message : Bytes) : Nat := Bytes.toNatBE (Hash.sha256 message)

/-- The signature of a message under the private scalar `d` with the one-time scalar `k`. A
one-time scalar that gives a zero must be replaced by another one. -/
def sign (d k : Nat) (message : Bytes) : Nat × Nat :=
  let r := (p256.publicOf k).1 % p256.order
  let s := Modular.inv p256.order k * (digestNumber message + r * d) % p256.order
  (r, s)

/-- Whether a pair of numbers is a signature of a message under the public point `(x, y)`. -/
def verify (x y : Nat) (message : Bytes) (r s : Nat) : Bool :=
  decide (0 < r) && decide (r < p256.order) && decide (0 < s) && decide (s < p256.order) &&
    let w := Modular.inv p256.order s
    let u := digestNumber message * w % p256.order
    let v := r * w % p256.order
    match p256.affine? (p256.add (p256.multiple u p256.base) (p256.multiple v ⟨x, y, 1⟩)) with
    | none => false
    | some (px, _) => px % p256.order == r

/-! ## The 64-byte form -/

def join (r s : Nat) : Bytes := Bytes.ofNatBE 32 r ++ Bytes.ofNatBE 32 s

/-- The two numbers of a 64-byte signature; a string of another length has none. -/
def split? (signature : Bytes) : Option (Nat × Nat) :=
  if signature.length = 64 then
    some (Bytes.toNatBE (signature.take 32), Bytes.toNatBE (signature.drop 32))
  else none

@[simp] theorem length_join (r s : Nat) : (join r s).length = 64 := by
  simp [join]

/-- Whether a byte string has the 64-byte form of a signature: its length, and no zero half. -/
def isWellFormed (signature : Bytes) : Bool :=
  match split? signature with
  | none => false
  | some (r, s) => r != 0 && s != 0

def verifyBytes (x y : Nat) (message signature : Bytes) : Bool :=
  match split? signature with
  | none => false
  | some (r, s) => verify x y message r s

end DeviceTrust.Ecdsa
