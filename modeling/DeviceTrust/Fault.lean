import DeviceTrust.Parameters
import DeviceTrust.Text.Quoted

/-!
# Faults

What can be wrong with an argument or fail in a primitive, before the library puts it into words
of its own. A fault has a class, by which callers tell faults apart, and some have a text.
-/

set_option autoImplicit false

namespace DeviceTrust

inductive FaultClass where
  /-- A value outside its range, or of the wrong form. -/
  | value
  /-- A value of the wrong type. -/
  | type
  /-- A number too big for its place. -/
  | overflow
  /-- A primitive that is not supported. -/
  | unsupported
  /-- A ciphertext that was not made with this key, nonce and associated data. -/
  | invalidTag
  /-- Bytes that do not start with a well-formed item. -/
  | malformed
  /-- A value with no place in CBOR. -/
  | unencodable
  /-- A label that is not there. -/
  | missing
  /-- A position that is not there. -/
  | position
  /-- An object without the operation asked for. -/
  | attribute
  /-- A primitive that broke down. -/
  | broken
  /-- More bytes than there is memory. -/
  | memory
  /-- A file or folder that is not there. -/
  | noFile
  /-- A file where a new folder is to be. -/
  | occupied
  /-- A file where a folder is needed. -/
  | notFolder
  /-- A folder where a file is needed. -/
  | folder
  /-- A file name that is too long. -/
  | longName
  deriving DecidableEq, Repr

/-- What is wrong. -/
inductive Fault where
  /-- A fault of which only the class is known. -/
  | plain (c : FaultClass)
  /-- More or fewer bytes of derived key than can be had. -/
  | outputLength (shown : String)
  /-- A key of a length that the cipher does not have. -/
  | cipherKeyLength (length : Nat)
  /-- A nonce of another length than the cipher's. -/
  | nonceLength (length : Nat)
  /-- A ciphertext with no room for its tag. -/
  | shortCiphertext
  /-- A key on another curve than P-256. -/
  | otherCurve (name : String)
  /-- A value that is no public key. -/
  | notPublicKey (typeName : String)
  /-- A setting that names no log level. -/
  | unknownLevelSetting (text : String)
  /-- A text that names no log level. -/
  | unknownLevel (text : String)
  /-- A text or byte string that is no whole number. -/
  | notNumeral (shown : String)
  deriving DecidableEq, Repr

namespace Fault

/-- How much of a text or byte string is shown when it is no whole number. -/
def shownNumeralLength : Nat := 200

def faultClass : Fault → FaultClass
  | plain c => c
  | notPublicKey _ => .type
  | outputLength _ | cipherKeyLength _ | nonceLength _ | shortCiphertext | otherCurve _
  | unknownLevelSetting _ | unknownLevel _ | notNumeral _ => .value

def message? : Fault → Option String
  | plain _ => none
  | outputLength shown =>
    some s!"Invalid output length: {shown} (must be 1-{Parameters.greatestOutputLength})"
  | cipherKeyLength n => some s!"Invalid AES key length: {n}"
  | nonceLength n => some s!"Invalid IV length: {n} (expected {Parameters.nonceLength})"
  | shortCiphertext => some "Ciphertext shorter than the authentication tag"
  | otherCurve name => some s!"Only NIST P-256 (SECP256R1) is supported, got {name}"
  | notPublicKey typeName => some s!"Unsupported public key type: {typeName}"
  | unknownLevelSetting text => some s!"Unknown log level: {text}"
  | unknownLevel text => some ("Unknown level: " ++ Text.quoted text)
  | notNumeral shown =>
    some ("invalid literal for int() with base 10: "
      ++ String.ofList (shown.toList.take shownNumeralLength))

end Fault

end DeviceTrust
