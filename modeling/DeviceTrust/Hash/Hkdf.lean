import DeviceTrust.Hash.Sha2

/-!
# HMAC and HKDF over SHA-256

The keyed hash, and the key derivation that extracts a fixed-size key from a secret and expands
it to any length up to 255 hash blocks.
-/

set_option autoImplicit false

namespace DeviceTrust.Hash

/-- The HMAC key block: a long key is hashed first, then zeros fill the block of 64 bytes. -/
def hmacKeyBlock (key : Bytes) : Bytes :=
  let short := if key.length > 64 then sha256 key else key
  short ++ Bytes.zeros (64 - short.length)

def hmac (key message : Bytes) : Bytes :=
  let block := hmacKeyBlock key
  let inner := sha256 (block.map (· ^^^ 0x36) ++ message)
  sha256 (block.map (· ^^^ 0x5c) ++ inner)

@[simp] theorem length_hmac (key message : Bytes) : (hmac key message).length = 32 :=
  length_sha256 _

namespace Hkdf

/-- The pseudorandom key. An absent or empty salt stands for 32 zero bytes. -/
def extract (salt : Option Bytes) (secret : Bytes) : Bytes :=
  match salt with
  | none | some [] => hmac (Bytes.zeros 32) secret
  | some s => hmac s secret

/-- Block `i` of the output: the empty string for 0, else the keyed hash of the block before,
the context and the block's number in one byte. -/
def block (prk info : Bytes) : Nat → Bytes
  | 0 => []
  | i + 1 => hmac prk (block prk info i ++ info ++ [UInt8.ofNat (i + 1)])

/-- `count` blocks, the first one following block `i` with the given content. -/
def blocksFrom (prk info : Bytes) : (count i : Nat) → (previous : Bytes) → Bytes
  | 0, _, _ => []
  | count + 1, i, previous =>
    let next := hmac prk (previous ++ info ++ [UInt8.ofNat (i + 1)])
    next ++ blocksFrom prk info count (i + 1) next

/-- The first `length` bytes of the blocks from number 1 on. -/
def expand (prk info : Bytes) (length : Nat) : Bytes :=
  (blocksFrom prk info ((length + 31) / 32) 0 []).take length

def derive (secret : Bytes) (salt : Option Bytes) (info : Bytes) (length : Nat) : Bytes :=
  expand (extract salt secret) info length

theorem length_blocksFrom (prk info : Bytes) (count i : Nat) (previous : Bytes) :
    (blocksFrom prk info count i previous).length = 32 * count := by
  induction count generalizing i previous with
  | zero => rfl
  | succ count ih => simp only [blocksFrom, List.length_append, length_hmac, ih]; omega

/-- **Output length**: exactly what was asked for. -/
@[simp] theorem length_derive (secret : Bytes) (salt : Option Bytes) (info : Bytes)
    (length : Nat) : (derive secret salt info length).length = length := by
  simp only [derive, expand, List.length_take, length_blocksFrom]
  omega

/-- **The running form**: what `blocksFrom` writes are the blocks in order. -/
theorem blocksFrom_eq_flatMap (prk info : Bytes) (count i : Nat) :
    blocksFrom prk info count i (block prk info i)
      = (List.range' (i + 1) count).flatMap (block prk info) := by
  induction count generalizing i with
  | zero => rfl
  | succ count ih =>
    have h := ih (i + 1)
    simp only [blocksFrom, List.range'_succ, List.flatMap_cons]
    simp only [block] at h
    rw [h, block]

end Hkdf

end DeviceTrust.Hash
