import DeviceTrust.Cbor.Coercion
import DeviceTrust.Cipher.Gcm
import DeviceTrust.Platform

/-!
# Payload protection

Payloads are encrypted with AES-GCM; the ciphertext ends in the tag. Sizes are checked first, then
the arguments are read as bytes: key, nonce, text, associated data. Whatever goes wrong, the caller
sees one failure for encryption and one for decryption, and never a partial text.
-/

set_option autoImplicit false

namespace DeviceTrust.Payload

def logger : String := "provisioning.security.aead"

/-- The most bytes that text or associated data can have. -/
def greatestLength : Nat := 0x7fffffff

def checkSizes (key nonce : Value) : Except Fault Unit := do
  let keyLength ← key.requireLength
  if !Parameters.cipherKeyLengths.contains keyLength then throw (.cipherKeyLength keyLength)
  let nonceLength ← nonce.requireLength
  if nonceLength ≠ Parameters.nonceLength then throw (.nonceLength nonceLength)

/-- What the cipher works on. -/
structure Input where
  key : Bytes
  nonce : Bytes
  text : Bytes
  aad : Bytes

def readInput (p : Platform) (text aad key nonce : Value) : Except Fault Input := do
  let key ← key.toBytes p.memory
  let nonce ← nonce.toBytes p.memory
  let text ← text.toBytes p.memory
  let aad ← aad.toBytes p.memory
  if greatestLength < text.length || greatestLength < aad.length then throw (.plain .overflow)
  return ⟨key.bytes, nonce.bytes, text.bytes, aad.bytes⟩

def sealed (p : Platform) (text aad key nonce : Value) : Except Fault Bytes := do
  checkSizes key nonce
  let i ← readInput p text aad key nonce
  return Gcm.encrypt i.key i.nonce i.aad i.text

def unsealed (p : Platform) (ciphertext aad key nonce : Value) : Except Fault Bytes := do
  checkSizes key nonce
  if (← ciphertext.requireLength) < Parameters.tagLength then throw .shortCiphertext
  let i ← readInput p ciphertext aad key nonce
  match Gcm.decrypt i.key i.nonce i.aad i.text with
  | some text => return text
  | none => throw (.plain .invalidTag)

/-- Whether a failure is reported as one; a lack of memory passes as it is. -/
def isReported (f : Fault) : Bool := f.faultClass != .memory

/-- **Encrypts a text.** Every failure is one and the same error, with its cause. -/
def encrypt (p : Platform) (text aad key nonce : Value) : Except Error Bytes :=
  (sealed p text aad key nonce).mapError fun f => if isReported f then .encryption f else .fault f

/-- **Decrypts a ciphertext.** Every failure is one and the same error, with its cause, and leaves
one record. -/
def decrypt (p : Platform) (ciphertext aad key nonce : Value) : Traced Bytes :=
  match unsealed p ciphertext aad key nonce with
  | .ok text => pure text
  | .error f =>
    if isReported f then do
      p.log Level.debug logger "AES-GCM decryption failed"
      Traced.fail (.decryption f)
    else Traced.fail (.fault f)

end DeviceTrust.Payload
