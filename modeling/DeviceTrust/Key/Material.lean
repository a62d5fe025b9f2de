import DeviceTrust.Curve.Ed25519
import DeviceTrust.Curve.Ecdsa

/-!
# Keys

Public and private keys as the primitives take them, before and after any encoding. Keys of the
Montgomery and Edwards curves are any 32 bytes; a key on P-256 or P-384 is a point or a scalar.
-/

set_option autoImplicit false

namespace DeviceTrust

/-- Thirty-two bytes: a public or private key of X25519 or Ed25519. -/
structure RawKey where
  bytes : Bytes
  length_eq : bytes.length = 32
  deriving DecidableEq

def RawKey.x25519Public (k : RawKey) : RawKey :=
  ⟨X25519.publicOf k.bytes, X25519.length_publicOf k.bytes⟩

def RawKey.ed25519Public (k : RawKey) : RawKey :=
  ⟨Ed25519.publicOf k.bytes, Ed25519.length_publicOf k.bytes⟩

inductive PublicKey where
  | x25519 (key : RawKey)
  | ed25519 (key : RawKey)
  | p256 (x y : Nat)
  | p384 (x y : Nat)
  deriving DecidableEq

namespace PublicKey

/-- The uncompressed form of a point: the byte 4, then both coordinates in full width. -/
def uncompressed (c : Weierstrass) (x y : Nat) : Bytes :=
  4 :: (Bytes.ofNatBE c.size x ++ Bytes.ofNatBE c.size y)

/-- The bytes that stand for a key: the key itself, or the uncompressed point. -/
def encoded : PublicKey → Bytes
  | x25519 k => k.bytes
  | ed25519 k => k.bytes
  | p256 x y => uncompressed DeviceTrust.p256 x y
  | p384 x y => uncompressed DeviceTrust.p384 x y

/-- The raw bytes of a key that has them: not of a point. -/
def raw? : PublicKey → Option Bytes
  | x25519 k => some k.bytes
  | ed25519 k => some k.bytes
  | p256 _ _ | p384 _ _ => none

def typeName : PublicKey → String
  | x25519 _ => "X25519PublicKey"
  | ed25519 _ => "Ed25519PublicKey"
  | p256 _ _ | p384 _ _ => "ECPublicKey"

end PublicKey

/-- How a signer that is out of order fails. -/
inductive SignerFault where
  | badValue | badType | unsupported | broken
  deriving DecidableEq, Repr

/-- A private key. Two kinds stand for hardware that is out of order: a signer that takes an
Ed25519 key's place and fails, and an X25519 key whose exchange is not supported. -/
inductive PrivateKey where
  | x25519 (key : RawKey)
  | ed25519 (key : RawKey)
  | p256 (scalar : Nat)
  | p384 (scalar : Nat)
  | faultySigner (fault : SignerFault)
  | faultyExchange
  deriving DecidableEq

namespace PrivateKey

/-- The public key that belongs to a private key; a key that is out of order gives none. -/
def publicKey? : PrivateKey → Option PublicKey
  | x25519 k => some (.x25519 k.x25519Public)
  | ed25519 k => some (.ed25519 k.ed25519Public)
  | p256 d => let q := DeviceTrust.p256.publicOf d; some (.p256 q.1 q.2)
  | p384 d => let q := DeviceTrust.p384.publicOf d; some (.p384 q.1 q.2)
  | faultySigner _ | faultyExchange => none

def typeName : PrivateKey → String
  | x25519 _ => "X25519PrivateKey"
  | ed25519 _ => "Ed25519PrivateKey"
  | p256 _ | p384 _ => "ECPrivateKey"
  | faultySigner _ => "BrokenSigner"
  | faultyExchange => "BrokenExchange"

end PrivateKey

/-- A private key with a public key beside it, usually its own. -/
structure KeyPair where
  secret : PrivateKey
  publicKey : PublicKey
  deriving DecidableEq

end DeviceTrust
