import DeviceTrust.Cose.Message
import DeviceTrust.Curve.Ecdsa
import DeviceTrust.Curve.Ed25519
import DeviceTrust.Key.Codec

/-!
# Signature providers

A provider is a set of signature suites. It picks a suite by the private key when it signs, and by
the protected header when it verifies; no other suite is ever tried. A verification key may leave
its algorithm out, but not name another one.
-/

set_option autoImplicit false

namespace DeviceTrust

/-- The signature suites: each is one algorithm on one curve. -/
inductive Suite where
  | eddsa | es256
  deriving DecidableEq, Repr

namespace Suite

/-- All suites, by increasing number of their algorithms. -/
def all : List Suite := [eddsa, es256]

def algorithm : Suite → Algorithm
  | eddsa => .eddsa | es256 => .es256

def number (s : Suite) : Int := s.algorithm.number

def name : Suite → String
  | eddsa => "EdDSA" | es256 => "ES256"

def accepts (s : Suite) (key : Value) : Bool :=
  match s, key with
  | eddsa, .privateKey (.ed25519 _) _ | eddsa, .privateKey (.faultySigner _) _ => true
  | es256, .privateKey (.p256 _) _ => true
  | _, _ => false

/-- The class of the fault with which a signer that is out of order fails. -/
def faultOf : SignerFault → FaultClass
  | .badValue => .value | .badType => .type | .unsupported => .unsupported | .broken => .broken

/-- The signature of a byte string. A key that signs in another way has the wrong type, one that
cannot sign at all has no such operation, and the numbers of a larger curve do not fit. -/
def sign (s : Suite) (nonce : Nat) (data key : Value) : Except Fault Bytes :=
  match s, key with
  | eddsa, .privateKey (.ed25519 k) _ => do
    return Ed25519.sign k.bytes (← data.requireByteString)
  | es256, .privateKey (.p256 d) _ => do
    let signature := Ecdsa.sign d nonce (← data.requireByteString)
    return Ecdsa.join signature.1 signature.2
  | es256, .privateKey (.p384 _) _ => do
    let _ ← data.requireByteString
    throw (.plain .overflow)
  | eddsa, .privateKey (.faultySigner fault) _ => .error (.plain (faultOf fault))
  | _, .privateKey (.ed25519 _) _ | _, .privateKey (.p256 _) _ | _, .privateKey (.p384 _) _
  | _, .privateKey (.faultySigner _) _ => .error (.plain .type)
  | _, _ => .error (.plain .attribute)

/-- The fault of a verification that cannot be done: a key that cannot verify at all has no such
operation; otherwise the key, the signature or the data has the wrong type. -/
def verificationFault (key : Value) : Fault :=
  match key with
  | .publicKey (.ed25519 _) | .publicKey (.p256 _ _) | .publicKey (.p384 _ _) => .plain .type
  | _ => .plain .attribute

/-- The bytes of a signature that is cut into halves: a byte string, or an array of numbers below
256. -/
def halvedBytes (signature : Value) : Except Fault Bytes :=
  match signature.byteString?, signature.items? with
  | some b, _ => .ok b
  | _, some items => items.mapM Value.toByte
  | _, _ => .error (.plain .type)

/-- Whether a signature of a byte string is valid under a public key. A signature on P-256 of
another form is refused before anything else is looked at, and the larger curve has none so
short. -/
def verify (s : Suite) (data signature key : Value) : Except Fault Bool :=
  match s with
  | eddsa =>
    match key, signature.byteString?, data.byteString? with
    | .publicKey (.ed25519 k), some signature, some data =>
      .ok (Ed25519.verify k.bytes signature data)
    | key, _, _ => .error (verificationFault key)
  | es256 => do
    if (← signature.requireLength) ≠ 2 * Parameters.coordinateLength then return false
    let signature ← halvedBytes signature
    if !Ecdsa.isWellFormed signature then return false
    match key, data.byteString? with
    | .publicKey (.p256 x y), some data => return Ecdsa.verifyBytes x y data signature
    | .publicKey (.p384 _ _), some _ => return false
    | key, _ => throw (verificationFault key)

/-- A key with the algorithm of a suite added, if it names none. -/
def withDefaultAlgorithm (s : Suite) (k : CoseKey) : CoseKey :=
  match k.find? (.int KeyLabel.alg.number) with
  | some _ => k
  | none => .new (k.parameters.insert (.int KeyLabel.alg.number) (.int s.number))

def publicKeyOf (p : Platform) (s : Suite) (k : CoseKey) : Except Error PublicKey :=
  match s with
  | eddsa => (s.withDefaultAlgorithm k).toRawKey p .ed25519
  | es256 => (s.withDefaultAlgorithm k).toPoint p

end Suite

/-! ## Providers -/

/-- A set of suites. -/
structure Provider where
  suites : List Suite

namespace Provider

def logger : String := "provisioning.certificates.algorithms"

/-- The provider with both suites, which serves when no other is given. -/
def standard : Provider := ⟨[.eddsa, .es256]⟩

/-- The numbers of the provider's algorithms, in increasing order. -/
def supported (pr : Provider) : List Int :=
  (Suite.all.filter pr.suites.contains).map Suite.number

/-- The suite with an algorithm's number. Only an integer is such a number. -/
def get (pr : Provider) (algorithm : Value) : Except Error Suite :=
  match algorithm.int?.bind fun n => pr.suites.find? fun s => s.number == n with
  | some s => .ok s
  | none => .error (.unknownAlgorithm pr.supported algorithm)

def forPrivateKey (pr : Provider) (key : Value) : Except Error Suite :=
  match pr.suites.find? fun s => s.accepts key with
  | some s => .ok s
  | none => .error (.noSigner pr.supported key.typeName)

def headerOf (s : Suite) : Except Error Bytes :=
  Header.encode (.map .plain [(.int Parameters.algorithmLabel, .int s.number)])

/-- Whether a failure of a signer is reported as one; any other failure passes. -/
def isSigningFailure (c : FaultClass) : Bool := c == .value || c == .type || c == .unsupported

/-- **Signs a payload.** The protected header names the algorithm and nothing else. -/
def sign (p : Platform) (pr : Provider) (payload key : Value) : Except Error SignedMessage := do
  let s ← pr.forPrivateKey key
  let header ← headerOf s
  let data ← SignedMessage.signedBytes (.bytes header) payload (.bytes [])
  match s.sign p.nonce (.bytes data) key with
  | .ok signature => return ⟨.bytes header, .map .plain [], payload, .bytes signature⟩
  | .error f =>
    if isSigningFailure f.faultClass then throw (.signing f) else throw (.fault f)

/-- **Whether a message is signed by a key.** The suite comes from the protected header. -/
def verify (p : Platform) (pr : Provider) (m : SignedMessage) (key : Value) : Traced Bool := do
  let s ← pr.get (← m.algorithm)
  let publicKey ← s.publicKeyOf p (← CoseKey.decode key)
  let data ← m.toBeSigned
  let valid ← (s.verify (.bytes data) m.signature (.publicKey publicKey)).mapError Error.fault
  if !valid then
    p.log Level.warning logger s!"COSE_Sign1 signature did not verify (alg {s.number})"
  return valid

end Provider

end DeviceTrust
