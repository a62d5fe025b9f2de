import DeviceTrust.Cbor.Literal
import DeviceTrust.Fault

/-!
# Errors

Every failure of the library is one of these causes. An error of the library itself belongs to one
of two families, structural or cryptographic, and gives a report: a message, a reason, and, where
one field is at fault, its name with the value it should have had and the value it has. A bare
fault has no report. Callers branch on reasons and fields, never on texts.
-/

set_option autoImplicit false

namespace DeviceTrust

/-! ## Reasons -/

inductive Family where
  /-- Untrusted input that is malformed or contradicts itself. -/
  | structural
  /-- A cryptographic operation that failed. -/
  | cryptographic
  deriving DecidableEq, Repr

inductive Reason where
  | deserialization | typeMismatch | incorrectCoseType
  | noSuchAlgorithm | malformedKey | encryptionFailure | decryptionFailure | signingFailure
  | verificationFailure
  deriving DecidableEq, Repr

namespace Reason

def family : Reason → Family
  | deserialization | typeMismatch | incorrectCoseType => .structural
  | noSuchAlgorithm | malformedKey | encryptionFailure | decryptionFailure | signingFailure
  | verificationFailure => .cryptographic

/-- The number of a reason within its family. -/
def code : Reason → Nat
  | deserialization => 1 | typeMismatch => 2 | incorrectCoseType => 3
  | noSuchAlgorithm => 1 | malformedKey => 2 | encryptionFailure => 3 | decryptionFailure => 4
  | signingFailure => 5 | verificationFailure => 6

def name : Reason → String
  | deserialization => "DESERIALIZATION_ERROR" | typeMismatch => "TYPE_MISMATCH"
  | incorrectCoseType => "INCORRECT_COSE_TYPE" | noSuchAlgorithm => "NO_SUCH_ALGORITHM"
  | malformedKey => "MALFORMED_KEY" | encryptionFailure => "ENCRYPTION_FAILURE"
  | decryptionFailure => "DECRYPTION_FAILURE" | signingFailure => "SIGNING_FAILURE"
  | verificationFailure => "VERIFICATION_FAILURE"

def all : List Reason :=
  [deserialization, typeMismatch, incorrectCoseType, noSuchAlgorithm, malformedKey,
    encryptionFailure, decryptionFailure, signingFailure, verificationFailure]

def ofName? (f : Family) (name : String) : Option Reason :=
  all.find? fun r => r.family == f && r.name == name

end Reason

/-! ## Reports -/

/-- What a caller learns from an error. The last two fields count only if a field is named. -/
structure Report where
  message : String
  reason : Reason
  field? : Option String := none
  expected : Value := .null
  actual : Value := .null

/-- A report that names no field. -/
def Report.bare (message : String) (reason : Reason) : Report := { message, reason }

def Report.text (r : Report) : String :=
  let head := s!"{r.message} [{r.reason.name}]"
  match r.field? with
  | none => head
  | some field => s!"{head} field={field} expected={r.expected.literal} actual={r.actual.literal}"

/-! ## Causes -/

/-- What is read from untrusted bytes. -/
inductive WireItem where
  | key | message | header | chain
  deriving DecidableEq, Repr

def WireItem.name : WireItem → String
  | key => "COSE key" | message => "COSE_Sign1" | header => "protected header"
  | chain => "boot certificate chain"

/-- The parts of a signed message, in their order. -/
inductive MessagePart where
  | protectedHeader | unprotectedHeader | payload | signature
  deriving DecidableEq, Repr

namespace MessagePart

def name : MessagePart → String
  | protectedHeader => "protected" | unprotectedHeader => "unprotected"
  | payload => "payload" | signature => "signature"

def kind : MessagePart → Kind
  | unprotectedHeader => .map
  | protectedHeader | payload | signature => .byteString

end MessagePart

/-- How the numbers of a key contradict the key that is expected. -/
inductive KeyMismatch where
  | keyType | curve | algorithm
  /-- The algorithm is not the one that goes with the curve. -/
  | algorithmOfCurve
  deriving DecidableEq, Repr

namespace KeyMismatch

/-- The message of a mismatch. -/
def message : KeyMismatch → String
  | keyType => "Key has unexpected key type (kty)"
  | curve => "Key has unexpected curve"
  | algorithm => "Key has unexpected algorithm"
  | algorithmOfCurve => "Algorithm does not match the curve"

/-- The parameter at fault. -/
def label : KeyMismatch → KeyLabel
  | keyType => .kty | curve => .crv | algorithm | algorithmOfCurve => .alg

end KeyMismatch

/-- The primitives that a platform may lack. -/
inductive Primitive where
  | hkdf | sha256 | x25519Public | ed25519Public | p256Public | x25519Generate | x25519Exchange
  deriving DecidableEq, Repr

def Primitive.absence : Primitive → String
  | hkdf => "HMAC-SHA256 not available for HKDF"
  | sha256 => "SHA-256 digest not available"
  | x25519Public | x25519Generate => "X25519 provider not available"
  | ed25519Public => "Ed25519 provider not available"
  | p256Public => "No support for P256."
  | x25519Exchange => "Missing ECDH algorithm provider"

/-- The two keys that pinning compares. -/
inductive PinnedSide where
  | certified | expected
  deriving DecidableEq, Repr

def PinnedSide.name : PinnedSide → String
  | certified => "certified" | expected => "expected"

inductive RawCurve where
  | x25519 | ed25519
  deriving DecidableEq, Repr

namespace RawCurve

def name : RawCurve → String
  | x25519 => "X25519" | ed25519 => "Ed25519"

def keyLength : RawCurve → Nat
  | x25519 => Parameters.x25519KeyLength | ed25519 => Parameters.ed25519KeyLength

end RawCurve

/-- Why an operation failed, in the library's own terms. -/
inductive Error where
  /-- A fault that is passed on as it is. -/
  | fault (f : Fault)
  /-- Bytes that are no CBOR. -/
  | undecodable (item : WireItem) (cause : Fault)
  /-- A key that is not a map. -/
  | keyNotMap (typeName : String)
  /-- A protected header that is not a map. -/
  | headerNotMap (actual : Kind)
  /-- A signed message under another tag. -/
  | messageTag (number : Nat)
  /-- A signed message that is not an array of four. -/
  | messageShape (actual : Kind)
  /-- A part of a signed message that has another type. -/
  | messagePart (part : MessagePart) (actual : Kind)
  /-- A chain that is not an array. -/
  | chainShape (actual : Kind)
  /-- A parameter of a key that has another type. -/
  | parameterType (label : KeyLabel) (expected actual : Kind)
  /-- A parameter of a key that has another value. -/
  | parameterValue (mismatch : KeyMismatch) (expected actual : Int)
  /-- An expected key that is none. -/
  | unusableExpectedKey (cause : Fault)
  /-- One of the two compared keys has no byte string `x`. -/
  | pinnedType (side : PinnedSide) (actual : Kind)
  /-- The certified key is not the expected one. -/
  | pinnedValue (expected actual : Value)
  /-- A primitive is missing. -/
  | missing (primitive : Primitive)
  /-- Raw bytes that are no public key; the length is absent if there are no bytes to count. -/
  | rawKey (curve : RawCurve) (length? : Option Nat) (cause : Fault)
  /-- A key agreement between keys of another sort. -/
  | agreementKeys
  /-- A key agreement that gives the zero secret. -/
  | zeroSecret (cause : Fault)
  /-- Two coordinates of no point. -/
  | offCurve (cause : Fault)
  /-- A payload that cannot be encrypted. -/
  | encryption (cause : Fault)
  /-- A payload that cannot be decrypted. -/
  | decryption (cause : Fault)
  /-- An algorithm that the provider does not have. -/
  | unknownAlgorithm (supported : List Int) (actual : Value)
  /-- A signing key for which the provider has no algorithm. -/
  | noSigner (supported : List Int) (typeName : String)
  /-- A signer that fails. -/
  | signing (cause : Fault)
  /-- A key that cannot be certified. -/
  | uncertifiable (cause : Error)
  /-- A certificate whose signature cannot be checked. -/
  | unverifiable (cause : Error)
  /-- A chain that cannot be read. -/
  | unreadableChain (cause : Error)
  /-- A chain of another length than two. -/
  | chainLength (length : Nat)
  /-- A chain whose link cannot be checked. -/
  | brokenLink (cause : Error)

namespace Error

/-- The integers of a list, as a value. -/
def numbers (ns : List Int) : Value := .list (ns.map .int)

/-- What a caller learns from an error; a bare fault tells nothing of its own. -/
def report? : Error → Option Report
  | fault _ => none
  | undecodable item _ => some (.bare ("Failed to decode " ++ item.name) .deserialization)
  | keyNotMap typeName =>
    some ⟨"COSE key is not a CBOR map", .deserialization, some "key", .text "map", .text typeName⟩
  | headerNotMap actual =>
    some ⟨"Protected header is not a map", .deserialization, some "protected", .kind .map,
      .kind actual⟩
  | messageTag number =>
    some ⟨"Unexpected CBOR tag for COSE_Sign1", .deserialization, some "tag",
      .int Parameters.messageTag, .int number⟩
  | messageShape actual =>
    some ⟨"COSE_Sign1 must be a 4-element array", .deserialization, some "message", .kind .array,
      .kind actual⟩
  | messagePart part actual =>
    some ⟨s!"COSE_Sign1 {part.name} has unexpected type", .deserialization, some part.name,
      .kind part.kind, .kind actual⟩
  | chainShape actual =>
    some ⟨"Boot certificate chain is not an array", .deserialization, some "chain", .kind .array,
      .kind actual⟩
  | parameterType label expected actual =>
    some ⟨s!"{label.field} field does not have expected type", .typeMismatch, some label.field,
      .kind expected, .kind actual⟩
  | parameterValue mismatch expected actual =>
    some ⟨mismatch.message, .incorrectCoseType, some mismatch.label.field, .int expected,
      .int actual⟩
  | unusableExpectedKey _ =>
    some (.bare "Expected key cannot be converted to a COSE key" .deserialization)
  | pinnedType side actual =>
    some ⟨s!"{side.name} key x field does not have expected type", .typeMismatch,
      some KeyLabel.x.field, .kind .byteString, .kind actual⟩
  | pinnedValue expected actual =>
    some ⟨"Key in certificate does not match the expected key", .verificationFailure,
      some KeyLabel.x.field, expected, actual⟩
  | missing primitive => some (.bare primitive.absence .noSuchAlgorithm)
  | rawKey curve length? _ =>
    some ⟨s!"Invalid {curve.name} public key", .malformedKey, some KeyLabel.x.field,
      .int curve.keyLength, (length?.map fun n => Value.int n).getD .null⟩
  | agreementKeys => some (.bare "X25519 agreement requires X25519 keys" .malformedKey)
  | zeroSecret _ => some (.bare "Derived ECDH key is malformed" .malformedKey)
  | offCurve _ => some (.bare "Point is not on P-256" .malformedKey)
  | encryption _ => some (.bare "Encryption failure" .encryptionFailure)
  | decryption _ => some (.bare "Decryption failure" .decryptionFailure)
  | unknownAlgorithm supported actual =>
    some ⟨"Unsupported signature algorithm", .noSuchAlgorithm, some "alg", numbers supported,
      actual⟩
  | noSigner supported typeName =>
    some ⟨"No signature algorithm for signing key", .signingFailure, some "signing_key",
      numbers supported, .text typeName⟩
  | signing _ => some (.bare "Failed to sign certificate" .signingFailure)
  | uncertifiable _ => some (.bare "Cannot encode key to be certified" .signingFailure)
  | unverifiable _ =>
    some (.bare "Failed to validate certificate chain" .verificationFailure)
  | unreadableChain _ =>
    some (.bare "Failed to decode boot certificate chain" .verificationFailure)
  | chainLength length =>
    some ⟨"Unsupported boot certificate chain length", .verificationFailure, some "chain",
      .int Parameters.chainLength, .int length⟩
  | brokenLink _ =>
    some (.bare "Failed to validate first BCC cert with key" .verificationFailure)

def cause? : Error → Option Error
  | undecodable _ cause | unusableExpectedKey cause | rawKey _ _ cause | zeroSecret cause
  | offCurve cause | encryption cause | decryption cause | signing cause => some (fault cause)
  | missing _ => some (fault (.plain .unsupported))
  | uncertifiable cause | unverifiable cause | unreadableChain cause | brokenLink cause =>
    some cause
  | _ => none

def reason? (e : Error) : Option Reason := e.report?.map (·.reason)

def family? (e : Error) : Option Family := e.reason?.map (·.family)

/-- Whether an error is one of the library's own. -/
def isReported (e : Error) : Bool := e.report?.isSome

def faultClass? : Error → Option FaultClass
  | fault f => some f.faultClass
  | _ => none

/-- Whether an error counts as a wrong value: a bare fault of that class, or structural. -/
def isValueError (e : Error) : Bool :=
  e.faultClass? == some .value || e.family? == some .structural

def isTypeError (e : Error) : Bool := e.faultClass? == some .type

end Error

end DeviceTrust
