import DeviceTrust.Certificate.Chain
import DeviceTrust.Key.Agreement
import DeviceTrust.Payload

/-!
# The operations of the library

Every operation that a caller can ask for, as a value: what it is asked of, and what it gives. The
platform is not among the arguments; it is where an operation runs.
-/

set_option autoImplicit false

namespace DeviceTrust

/-- An operation of the library, with its arguments. The index is the type of what it gives. -/
inductive Operation : Type → Type where
  /-- The public key on a raw curve that consists of the given bytes. -/
  | rawKey (c : RawCurve) (data : Value) : Operation PublicKey
  /-- The raw bytes of a public key. -/
  | rawBytes (key : Value) : Operation Bytes
  /-- The identifier of a public key. -/
  | keyDigest (key : Value) : Operation Bytes
  /-- The structured form of a key on a raw curve. -/
  | structureRaw (c : RawCurve) (key : Value) : Operation CoseKey
  /-- The structured form of a key on P-256. -/
  | structurePoint (key : Value) : Operation CoseKey
  /-- The encoding of the structured form of a key on a raw curve. -/
  | encodeRaw (c : RawCurve) (key : Value) : Operation Bytes
  /-- The public structured key that a value stands for. -/
  | structured (key : Value) : Operation CoseKey
  /-- The key on a raw curve in a structured key. -/
  | decodeRaw (c : RawCurve) (key : Value) : Operation PublicKey
  /-- The key on P-256 in a structured key. -/
  | decodePoint (key : Value) : Operation PublicKey
  /-- Reads a structured key. -/
  | readKey (key : Value) : Operation CoseKey
  /-- Encodes a structured key. -/
  | writeKey (key : CoseKey) : Operation Bytes
  /-- The digest of some bytes. -/
  | digest (data : Value) : Operation Bytes
  /-- Bytes derived from a secret. -/
  | derive (secret length info salt : Value) : Operation Bytes
  /-- A signature in the form of a suite. -/
  | signData (s : Suite) (data key : Value) : Operation Bytes
  /-- Whether a signature in the form of a suite is valid. -/
  | verifyData (s : Suite) (data signature key : Value) : Operation Bool
  /-- A fresh key pair from random bytes. -/
  | generate (random : RawKey) : Operation KeyPair
  /-- The pair of a private key. -/
  | pairOf (key : Value) : Operation KeyPair
  /-- The secret that a private key shares with a public key. -/
  | sharedSecret (own peer : Value) : Operation Bytes
  /-- What the context of a derivation says of a party. -/
  | partyInfo (identity key : Value) : Operation Value
  /-- The context of a derivation. -/
  | context (u v : Value) : Operation Bytes
  /-- The key for a direction. -/
  | directionalKey (d : Agreement.Direction) (own peer length : Value) : Operation Bytes
  /-- Wipes a buffer. -/
  | wipe (buffer : Value) : Operation Value
  /-- Encrypts a text. -/
  | encrypt (text aad key nonce : Value) : Operation Bytes
  /-- Decrypts a ciphertext. -/
  | decrypt (ciphertext aad key nonce : Value) : Operation Bytes
  /-- Encodes a protected header. -/
  | writeHeader (header : Value) : Operation Bytes
  /-- Reads a protected header. -/
  | readHeader (encoded : Value) : Operation Entries
  /-- The bytes that a signature covers. -/
  | coveredBytes (protectedHeader payload external : Value) : Operation Bytes
  /-- Reads a message in any of its forms. -/
  | readMessage (message : Value) : Operation SignedMessage
  /-- Encodes a message. -/
  | writeMessage (message : SignedMessage) : Operation Bytes
  /-- The suite with an algorithm's number. -/
  | suiteOf (pr : Provider) (algorithm : Value) : Operation Suite
  /-- The suite that signs with a private key. -/
  | signerOf (pr : Provider) (key : Value) : Operation Suite
  /-- Signs a payload. -/
  | sign (pr : Provider) (payload key : Value) : Operation SignedMessage
  /-- Whether a message is signed by a key. -/
  | verify (pr : Provider) (message : SignedMessage) (key : Value) : Operation Bool
  /-- Certifies a public key. -/
  | certify (pr : Provider) (signingKey target : Value) : Operation SignedMessage
  /-- Whether a certificate is signed by the key in another one. -/
  | verifyCertificate (pr : Provider) (verifying candidate expected : Value) : Operation Bool
  /-- The key on a raw curve that a certificate certifies. -/
  | extract (c : RawCurve) (certificate : Value) : Operation PublicKey
  /-- Whether a chain holds. -/
  | validateChain (pr : Provider) (chain : Value) : Operation Bool
  /-- Builds a chain. -/
  | buildChain (pr : Provider) (root device published : Value) : Operation (List Value)
  /-- Encodes a chain. -/
  | encodeChain (chain : Value) : Operation Bytes

namespace Operation

/-- A fault that is passed on. -/
def passFault {α : Type} (x : Except Fault α) : Except Error α := x.mapError Error.fault

/-- **Runs an operation** on a platform. -/
def run {α : Type} (p : Platform) : Operation α → Traced α
  | rawKey c data => .ofExcept (PublicKey.ofRaw p c data)
  | rawBytes key => .ofExcept key.toRaw
  | keyDigest key => .ofExcept (key.keyDigest p)
  | structureRaw c key => .ofExcept (CoseKey.ofRawKey p c key)
  | structurePoint key => .ofExcept (CoseKey.ofPoint p key)
  | encodeRaw c key => .ofExcept (do (← CoseKey.ofRawKey p c key).encode)
  | structured key => .ofExcept (CoseKey.ofValue p key)
  | decodeRaw c key => .ofExcept (PublicKey.decodeRaw p c key)
  | decodePoint key => .ofExcept (PublicKey.decodePoint p key)
  | readKey key => .ofExcept (CoseKey.decode key)
  | writeKey key => .ofExcept key.encode
  | digest data => .ofExcept (p.digestOf data)
  | derive secret length info salt => .ofExcept (p.deriveOf secret length info salt)
  | signData s data key => .ofExcept (passFault (s.sign p.nonce data key))
  | verifyData s data signature key => .ofExcept (passFault (s.verify data signature key))
  | generate random => .ofExcept (Agreement.generate p random)
  | pairOf key => .ofExcept (passFault (Agreement.pairOf key))
  | sharedSecret own peer => .ofExcept (Agreement.sharedSecret own peer)
  | partyInfo identity key => .ofExcept (Agreement.partyInfo p identity key)
  | context u v => .ofExcept (Agreement.context u v)
  | directionalKey d own peer length => Agreement.directionalKeyOf p d own peer length
  | wipe buffer => .ofExcept (passFault (Agreement.wipeValue buffer))
  | encrypt text aad key nonce => .ofExcept (Payload.encrypt p text aad key nonce)
  | decrypt ciphertext aad key nonce => Payload.decrypt p ciphertext aad key nonce
  | writeHeader header => .ofExcept (Header.encode header)
  | readHeader encoded => .ofExcept (Header.decode encoded)
  | coveredBytes protectedHeader payload external =>
    .ofExcept (SignedMessage.signedBytes protectedHeader payload external)
  | readMessage message => .ofExcept (SignedMessage.decode message)
  | writeMessage message => .ofExcept message.encode
  | suiteOf pr algorithm => .ofExcept (pr.get algorithm)
  | signerOf pr key => .ofExcept (pr.forPrivateKey key)
  | sign pr payload key => .ofExcept (pr.sign p payload key)
  | verify pr message key => pr.verify p message key
  | certify pr signingKey target => Certificate.signPublicKey p pr signingKey target
  | verifyCertificate pr verifying candidate expected =>
    Certificate.verify p pr verifying candidate expected
  | extract c certificate => .ofExcept (Certificate.extract p c certificate)
  | validateChain pr chain => Chain.validate p pr chain
  | buildChain pr root device published => Chain.build p pr root device published
  | encodeChain chain => .ofExcept (Chain.encode chain)

end Operation

end DeviceTrust
