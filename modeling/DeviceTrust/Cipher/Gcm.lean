import DeviceTrust.Cipher.Aes

/-!
# AES in Galois/counter mode

Authenticated encryption with a nonce of twelve bytes and a tag of sixteen. `encrypt` appends the
tag to the ciphertext, `decrypt` checks it before it decrypts.

Main statements: an encrypted text is decrypted to itself (`decrypt_encrypt`), and only what
`encrypt` made is decrypted (`encrypt_of_decrypt`).
-/

set_option autoImplicit false

namespace DeviceTrust.Gcm

/-! ## The authenticator -/

def bits (x : BitVec 128) : List Bool := (List.range 128).map fun i => x.getMsbD i

/-- The product in GF(2^128), the most significant bit standing for the constant term. -/
def multiply (x y : BitVec 128) : BitVec 128 :=
  ((bits x).foldl
    (fun (acc : BitVec 128 × BitVec 128) bit =>
      (if bit then acc.1 ^^^ acc.2 else acc.1,
       if acc.2.getLsbD 0 then (acc.2 >>> 1) ^^^ (0xe1#128 <<< 120) else acc.2 >>> 1))
    (0, y)).1

def element (b : Bytes) : BitVec 128 := BitVec.ofNat 128 (Bytes.toNatBE b)

/-- The keyed polynomial over the blocks of a string whose length is a multiple of sixteen. -/
def ghash (h : BitVec 128) (data : Bytes) : BitVec 128 :=
  (Bytes.blocks 16 (data.length / 16) data).foldl (fun y b => multiply (y ^^^ element b) h) 0

/-! ## Counter mode -/

/-- The keystream: the counter blocks `nonce ‖ i`, `nonce ‖ i + 1`, … encrypted. -/
def keystream (keys : List Aes.Block) (nonce : Bytes) : (count i : Nat) → Bytes
  | 0, _ => []
  | count + 1, i =>
    (Aes.encryptBlock keys (.ofBytes (nonce ++ Bytes.ofNatBE 4 i))).toBytes
      ++ keystream keys nonce count (i + 1)

/-- A text combined with the keystream from counter 2 on: both encryption and decryption. -/
def counterMode (keys : List Aes.Block) (nonce text : Bytes) : Bytes :=
  Bytes.xor text (keystream keys nonce ((text.length + 15) / 16) 2)

def tag (keys : List Aes.Block) (nonce aad ciphertext : Bytes) : Bytes :=
  let h := element (Aes.encryptBlock keys (.ofBytes (Bytes.zeros 16))).toBytes
  let lengths := Bytes.ofNatBE 8 (8 * aad.length) ++ Bytes.ofNatBE 8 (8 * ciphertext.length)
  let s := ghash h (Bytes.padTo 16 aad ++ Bytes.padTo 16 ciphertext ++ lengths)
  Bytes.xor (Bytes.ofNatBE 16 s.toNat) (keystream keys nonce 1 1)

def encrypt (key nonce aad text : Bytes) : Bytes :=
  let keys := Aes.expandKey key
  let ciphertext := counterMode keys nonce text
  ciphertext ++ tag keys nonce aad ciphertext

/-- The text behind a ciphertext with its tag; nothing if the tag is not the right one. -/
def decrypt (key nonce aad package : Bytes) : Option Bytes :=
  let keys := Aes.expandKey key
  let size := package.length - 16
  let ciphertext := package.take size
  if package.drop size = tag keys nonce aad ciphertext then
    some (counterMode keys nonce ciphertext)
  else
    none

/-! ## Lengths and inverses -/

theorem length_keystream (keys : List Aes.Block) (nonce : Bytes) (count i : Nat) :
    (keystream keys nonce count i).length = 16 * count := by
  induction count generalizing i with
  | zero => rfl
  | succ count ih =>
    simp only [keystream, List.length_append, Aes.Block.length_toBytes, ih]
    omega

@[simp] theorem length_counterMode (keys : List Aes.Block) (nonce text : Bytes) :
    (counterMode keys nonce text).length = text.length := by
  simp only [counterMode, Bytes.length_xor, length_keystream]
  omega

/-- **Counter mode is its own inverse.** -/
theorem counterMode_counterMode (keys : List Aes.Block) (nonce text : Bytes) :
    counterMode keys nonce (counterMode keys nonce text) = text := by
  have hlen := length_counterMode keys nonce text
  rw [counterMode, hlen, counterMode]
  apply Bytes.xor_xor_cancel
  rw [length_keystream]
  omega

@[simp] theorem length_tag (keys : List Aes.Block) (nonce aad ciphertext : Bytes) :
    (tag keys nonce aad ciphertext).length = 16 := by
  simp [tag, length_keystream]

theorem length_encrypt (key nonce aad text : Bytes) :
    (encrypt key nonce aad text).length = text.length + 16 := by
  simp [encrypt]

/-- **A package is refused if its tag is not the one of its ciphertext.** -/
theorem decrypt_eq_none {key nonce aad ciphertext mark : Bytes} (hlength : mark.length = 16)
    (h : mark ≠ tag (Aes.expandKey key) nonce aad ciphertext) :
    decrypt key nonce aad (ciphertext ++ mark) = none := by
  have hsize : (ciphertext ++ mark).length - 16 = ciphertext.length := by
    rw [List.length_append]
    omega
  simp only [decrypt, hsize, List.take_left, List.drop_left]
  exact if_neg h

/-- **Round trip**: what was encrypted is decrypted. -/
theorem decrypt_encrypt (key nonce aad text : Bytes) :
    decrypt key nonce aad (encrypt key nonce aad text) = some text := by
  have hsize : (encrypt key nonce aad text).length - 16
      = (counterMode (Aes.expandKey key) nonce text).length := by
    rw [length_encrypt, length_counterMode]
    omega
  simp only [decrypt, hsize]
  simp [encrypt, counterMode_counterMode]

/-- **Only encrypted texts are decrypted**: a package that is accepted is the encryption of the
text it is decrypted to. -/
theorem encrypt_of_decrypt {key nonce aad package text : Bytes}
    (h : decrypt key nonce aad package = some text) : encrypt key nonce aad text = package := by
  simp only [decrypt] at h
  split at h
  · rename_i htag
    obtain rfl := Option.some.inj h
    simp only [encrypt, counterMode_counterMode, ← htag]
    exact List.take_append_drop _ _
  · exact absurd h (by simp)

theorem decrypt_eq_some_iff {key nonce aad package text : Bytes} :
    decrypt key nonce aad package = some text ↔ encrypt key nonce aad text = package := by
  constructor
  · exact encrypt_of_decrypt
  · rintro rfl
    exact decrypt_encrypt key nonce aad text

end DeviceTrust.Gcm
