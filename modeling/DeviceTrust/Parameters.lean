/-!
# Protocol parameters

The sizes and numbers on which two parties must agree.
-/

set_option autoImplicit false

namespace DeviceTrust.Parameters

/-- The bytes of a derived key, unless the caller asks for another number. The context names a
longer key; the peer derives this many bytes all the same. -/
def derivedKeyLength : Nat := 16

/-- The key length that the key derivation context names, in bits. -/
def contextKeyBits : Nat := 256

def hashLength : Nat := 32

/-- The most bytes that one key derivation can give. -/
def greatestOutputLength : Nat := 255 * hashLength

def nonceLength : Nat := 12

def tagLength : Nat := 16

/-- The lengths of AES keys, in bytes. -/
def cipherKeyLengths : List Nat := [16, 24, 32]

def x25519KeyLength : Nat := 32

def ed25519KeyLength : Nat := 32

def coordinateLength : Nat := 32

def chainLength : Nat := 2

/-- The tag of a signed message. -/
def messageTag : Nat := 18

/-- The text at the front of the bytes that a signature covers. -/
def signatureContext : String := "Signature1"

def algorithmLabel : Int := 1

end DeviceTrust.Parameters
