import DeviceTrust.Cbor.Coercion
import DeviceTrust.Cose.Key
import DeviceTrust.Hash.Sha2
import DeviceTrust.Platform

/-!
# Public keys as structured keys

Every public key has one structured form: its type, its identifier, its algorithm, its curve and
its coordinates. Reading is strict: a parameter of the wrong type and a number that contradicts the
expected key are each reported for themselves, in a fixed order, and the types of all three numbers
of a raw key are checked before any value.
-/

set_option autoImplicit false

namespace DeviceTrust

def Platform.digest (p : Platform) (data : Bytes) : Except Error Bytes := do
  p.require .sha256
  return Hash.sha256 data

/-- The SHA-256 digest of a value, which must be a byte string. -/
def Platform.digestOf (p : Platform) (data : Value) : Except Error Bytes := do
  p.require .sha256
  p.digest (← data.requireByteString.mapError Error.fault)

/-! ## Raw bytes -/

namespace RawCurve

def curve : RawCurve → Curve
  | x25519 => .x25519 | ed25519 => .ed25519

def publicKey : RawCurve → RawKey → PublicKey
  | x25519, k => .x25519 k
  | ed25519, k => .ed25519 k

def primitive : RawCurve → Primitive
  | x25519 => .x25519Public | ed25519 => .ed25519Public

end RawCurve

namespace PublicKey

/-- The raw bytes of a key; a point has none. -/
def toRaw (k : PublicKey) : Except Error Bytes :=
  match k.raw? with
  | some b => .ok b
  | none => .error (.fault (.plain .value))

/-- **The identifier of a key**: the digest of its raw bytes or of its uncompressed point. -/
def digest (p : Platform) (k : PublicKey) : Except Error Bytes := p.digest k.encoded

/-- The key on a curve that consists of the bytes of a value. What is not thirty-two bytes is
malformed, and so is what is no bytes at all, unless its number does not fit or there is no memory
for it. -/
def ofRaw (p : Platform) (c : RawCurve) (data : Value) : Except Error PublicKey :=
  match data.toBytes p.memory with
  | .error f =>
    if f.faultClass = .overflow || f.faultClass = .memory then .error (.fault f)
    else .error (.rawKey c data.length? f)
  | .ok source => do
    p.require c.primitive
    if h : source.length = 32 then .ok (c.publicKey ⟨source.bytes, by simp [h]⟩)
    else .error (.rawKey c data.length? (.plain .value))

end PublicKey

namespace Value

/-- The raw bytes of the public key that a value is. A key pair has bytes but does not write
them, and any other value has no such operation. -/
def toRaw (v : Value) : Except Error Bytes :=
  match v with
  | .publicKey k => k.toRaw
  | .keyPair pair _ => do
    let _ ← pair.publicKey.toRaw
    throw (.fault (.plain .type))
  | _ => .error (.fault (.plain .attribute))

def keyDigest (p : Platform) (v : Value) : Except Error Bytes :=
  match v with
  | .publicKey k => k.digest p
  | v => do p.digest (← v.toRaw)

end Value

/-! ## Writing -/

def keyParameters (type : KeyType) (identifier : Bytes) (curve : Curve) : Entries :=
  [(.int KeyLabel.kty.number, .int type.number),
    (.int KeyLabel.kid.number, .bytes identifier),
    (.int KeyLabel.alg.number, .int curve.algorithm.number),
    (.int KeyLabel.crv.number, .int curve.number)]

namespace CoseKey

def ofRawBytes (p : Platform) (c : RawCurve) (raw : Bytes) : Except Error CoseKey := do
  let identifier ← p.digest raw
  return new (keyParameters .okp identifier c.curve ++ [(.int KeyLabel.x.number, .bytes raw)])

/-- The structured form of a point on P-256. Both coordinates are written in full. -/
def ofCoordinates (p : Platform) (x y : Nat) : Except Error CoseKey := do
  let identifier ← (PublicKey.p256 x y).digest p
  return new (keyParameters .ec2 identifier .p256 ++
    [(.int KeyLabel.x.number, .bytes (Bytes.ofNatBE Parameters.coordinateLength x)),
      (.int KeyLabel.y.number, .bytes (Bytes.ofNatBE Parameters.coordinateLength y))])

def ofPublicKey (p : Platform) (k : PublicKey) : Except Error CoseKey :=
  match k with
  | .x25519 k => ofRawBytes p .x25519 k.bytes
  | .ed25519 k => ofRawBytes p .ed25519 k.bytes
  | .p256 x y => ofCoordinates p x y
  | .p384 _ _ => .error (.fault (.otherCurve p384.name))

def ofRawKey (p : Platform) (c : RawCurve) (v : Value) : Except Error CoseKey := do
  ofRawBytes p c (← v.toRaw)

/-- The structured form of a value as a key on P-256. A value that has no curve at all cannot be
asked for it. -/
def ofPoint (p : Platform) (v : Value) : Except Error CoseKey :=
  match v with
  | .publicKey (.p256 x y) => ofCoordinates p x y
  | .publicKey (.p384 _ _) | .privateKey (.p384 _) _ => .error (.fault (.otherCurve p384.name))
  | _ => .error (.fault (.plain .attribute))

/-- **The public structured key that a value stands for**: the form of a public key, or a structured
key or map without its secret part. -/
def ofValue (p : Platform) (v : Value) : Except Error CoseKey :=
  match v with
  | .publicKey k => ofPublicKey p k
  | .coseKey _ | .map _ _ => (ofMap v).map publicKey
  | v => .error (.fault (.notPublicKey v.typeName))

/-! ## Checks -/

def requireInteger (k : CoseKey) (label : KeyLabel) : Except Error Int :=
  match (k.get label).int? with
  | some n => .ok n
  | none => .error (.parameterType label .integer (k.get label).kindOf)

def requireBytes (k : CoseKey) (label : KeyLabel) : Except Error Bytes :=
  match (k.get label).byteString? with
  | some b => .ok b
  | none => .error (.parameterType label .byteString (k.get label).kindOf)

def expect (k : CoseKey) (mismatch : KeyMismatch) (expected : Int) : Except Error Unit := do
  let actual ← k.requireInteger mismatch.label
  if actual = expected then .ok () else .error (.parameterValue mismatch expected actual)

/-! ## Reading -/

def toRawKey (p : Platform) (c : RawCurve) (k : CoseKey) : Except Error PublicKey := do
  let _ ← k.requireInteger .crv
  let _ ← k.requireInteger .kty
  let _ ← k.requireInteger .alg
  k.expect .keyType KeyType.okp.number
  k.expect .curve c.curve.number
  k.expect .algorithmOfCurve c.curve.algorithm.number
  let x ← k.requireBytes .x
  PublicKey.ofRaw p c (.bytes x)

/-- Reads a key on P-256. Coordinates are numbers of any length, and count modulo the prime of the
field. -/
def toPoint (p : Platform) (k : CoseKey) : Except Error PublicKey := do
  k.expect .keyType KeyType.ec2.number
  k.expect .algorithm Algorithm.es256.number
  k.expect .curve Curve.p256.number
  let x ← k.requireBytes .x
  let y ← k.requireBytes .y
  p.require .p256Public
  let x := Bytes.toNatBE x % p256.prime
  let y := Bytes.toNatBE y % p256.prime
  if p256.onCurve x y then .ok (.p256 x y) else .error (.offCurve (.plain .value))

end CoseKey

namespace PublicKey

def decodeRaw (p : Platform) (c : RawCurve) (v : Value) : Except Error PublicKey := do
  (← CoseKey.decode v).toRawKey p c

def decodePoint (p : Platform) (v : Value) : Except Error PublicKey := do
  (← CoseKey.decode v).toPoint p

end PublicKey

end DeviceTrust
