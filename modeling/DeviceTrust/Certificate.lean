import DeviceTrust.Cose.Provider

/-!
# Certificates

A certificate is a signed message whose payload is a structured public key. It is checked against
the key in another certificate, and its own key can be pinned to an expected one. Input that
cannot be read is a structural error; a key that cannot serve to verify, and a pinned key that
differs, are verification failures; a bad signature is an answer, not an error.
-/

set_option autoImplicit false

namespace DeviceTrust.Certificate

def logger : String := "provisioning.certificates.signed_certificate"

/-! ## Signing -/

/-- The bytes to certify for a key. A value of the wrong sort cannot be certified. -/
def content (p : Platform) (target : Value) : Except Error Bytes :=
  match (do (← CoseKey.ofValue p target).encode : Except Error Bytes) with
  | .ok b => .ok b
  | .error e => .error (if e.isTypeError || e.isValueError then .uncertifiable e else e)

/-- **Certifies a public key.** Its secret part, if it has one, is left out. -/
def signPublicKey (p : Platform) (pr : Provider) (signingKey target : Value) :
    Traced SignedMessage := do
  let payload ← content p target
  let certificate ← pr.sign p (.bytes payload) signingKey
  let algorithm ← certificate.algorithm
  p.log Level.debug logger ("Signed certificate with alg " ++ algorithm.literal)
  return certificate

/-! ## Verification -/

def certifiedKey (m : SignedMessage) : Except Error CoseKey := CoseKey.decode m.payload

/-- The structured key that a caller expects: a public key, a structured key or map, or its
encoding. -/
def expectedKey (p : Platform) (expected : Value) : Except Error CoseKey := do
  let expected ←
    if expected.byteString?.isSome then (CoseKey.decode expected).map CoseKey.toValue
    else pure expected
  match CoseKey.ofValue p expected with
  | .error (.fault f) =>
    throw (if f.faultClass = .type then .unusableExpectedKey f else .fault f)
  | result => result

/-- Fails unless one of the two compared keys has a byte string `x`. -/
def requirePinned (side : PinnedSide) (k : CoseKey) : Except Error Unit :=
  if (k.get .x).kindOf = .byteString then .ok ()
  else .error (.pinnedType side (k.get .x).kindOf)

/-- Fails unless a certificate certifies the expected key. The keys are compared by `x`. -/
def checkExpected (p : Platform) (m : SignedMessage) (expected : Value) : Traced Unit := do
  let certified ← certifiedKey m
  let expected ← expectedKey p expected
  requirePinned .certified certified
  requirePinned .expected expected
  if !(certified.get .x).same (expected.get .x) then
    p.log Level.warning logger "Certified key does not match the expected key"
    Traced.fail (.pinnedValue (expected.get .x) (certified.get .x))

/-- An error of the library while a signature was checked, in other words. -/
def reworded (e : Error) : Error := if e.isReported then .unverifiable e else e

/-- **Whether a certificate is signed by the key in another one**, and, if a key is expected,
certifies that key. -/
def verify (p : Platform) (pr : Provider) (verifying candidate : Value)
    (expected : Value := .null) : Traced Bool := do
  let certificate ← SignedMessage.decode candidate
  let verifyingKey ← certifiedKey (← SignedMessage.decode verifying)
  let valid ← (pr.verify p certificate verifyingKey.toValue).mapError reworded
  if !valid then return false
  if !(expected matches .null) then checkExpected p certificate expected
  return true

/-! ## Extraction -/

def extract (p : Platform) (c : RawCurve) (certificate : Value) : Except Error PublicKey := do
  (← certifiedKey (← SignedMessage.decode certificate)).toRawKey p c

end DeviceTrust.Certificate
