import DeviceTrust.Bytes

/-!
# The SHA-2 hash functions

One definition for words of any width, and its two instances: 32-bit words give SHA-256,
64-bit words give SHA-512. A variant is a record of the standard's parameters; padding, message
schedule and rounds are shared.
-/

set_option autoImplicit false

namespace DeviceTrust.Hash

/-- The eight working words of a SHA-2 computation. -/
structure Sha2State (w : Nat) where
  a : BitVec w
  b : BitVec w
  c : BitVec w
  d : BitVec w
  e : BitVec w
  f : BitVec w
  g : BitVec w
  h : BitVec w

/-- The parameters of one SHA-2 function on words of `w` bits: the rotation and shift amounts of
the four mixing functions, the round constants and the initial state. -/
structure Sha2Variant (w : Nat) where
  big0 : Nat × Nat × Nat
  big1 : Nat × Nat × Nat
  small0 : Nat × Nat × Nat
  small1 : Nat × Nat × Nat
  constants : List (BitVec w)
  initial : Sha2State w

namespace Sha2

variable {w : Nat}

def rotations (r : Nat × Nat × Nat) (x : BitVec w) : BitVec w :=
  x.rotateRight r.1 ^^^ x.rotateRight r.2.1 ^^^ x.rotateRight r.2.2

def rotationsShift (r : Nat × Nat × Nat) (x : BitVec w) : BitVec w :=
  x.rotateRight r.1 ^^^ x.rotateRight r.2.1 ^^^ (x >>> r.2.2)

/-- Bits of `y` where `x` is set, else bits of `z`. -/
def choose (x y z : BitVec w) : BitVec w := (x &&& y) ^^^ (~~~x &&& z)

def majority (x y z : BitVec w) : BitVec w := (x &&& y) ^^^ (x &&& z) ^^^ (y &&& z)

/-- One round with the schedule word `t` and the round constant `k`. -/
def round (v : Sha2Variant w) (k t : BitVec w) (s : Sha2State w) : Sha2State w :=
  let t1 := s.h + rotations v.big1 s.e + choose s.e s.f s.g + k + t
  let t2 := rotations v.big0 s.a + majority s.a s.b s.c
  ⟨t1 + t2, s.a, s.b, s.c, s.d + t1, s.e, s.f, s.g⟩

def nextWord (v : Sha2Variant w) (window : List (BitVec w)) : BitVec w :=
  rotationsShift v.small1 (window.getD 14 0) + window.getD 9 0
    + rotationsShift v.small0 (window.getD 1 0) + window.getD 0 0

/-- One round per constant; the window of schedule words moves on by one each time. -/
def rounds (v : Sha2Variant w) :
    List (BitVec w) → List (BitVec w) → Sha2State w → Sha2State w
  | [], _, s => s
  | k :: ks, window, s =>
    rounds v ks (window.drop 1 ++ [nextWord v window]) (round v k (window.getD 0 0) s)

def addStates (s t : Sha2State w) : Sha2State w :=
  ⟨s.a + t.a, s.b + t.b, s.c + t.c, s.d + t.d, s.e + t.e, s.f + t.f, s.g + t.g, s.h + t.h⟩

def compress (v : Sha2Variant w) (s : Sha2State w) (block : Bytes) : Sha2State w :=
  let words := (Bytes.blocks (w / 8) 16 block).map fun b => BitVec.ofNat w (Bytes.toNatBE b)
  addStates s (rounds v v.constants words s)

/-- The message, a one bit, zeros, and the message's length in bits in the last eighth of the
last block. A block has `2 * w` bytes. -/
def pad (w : Nat) (message : Bytes) : Bytes :=
  let body := message ++ [0x80]
  let gap := (2 * w - (body.length + w / 4) % (2 * w)) % (2 * w)
  body ++ Bytes.zeros gap ++ Bytes.ofNatBE (w / 4) (8 * message.length)

def stateBytes (s : Sha2State w) : Bytes :=
  [s.a, s.b, s.c, s.d, s.e, s.f, s.g, s.h].flatMap fun x => Bytes.ofNatBE (w / 8) x.toNat

def digest (v : Sha2Variant w) (message : Bytes) : Bytes :=
  let padded := pad w message
  stateBytes ((Bytes.blocks (2 * w) (padded.length / (2 * w)) padded).foldl (compress v) v.initial)

/-- **Digest width**: eight words, whatever the message. -/
theorem length_digest (v : Sha2Variant w) (message : Bytes) :
    (digest v message).length = 8 * (w / 8) := by
  simp only [digest, stateBytes, List.flatMap_cons, List.flatMap_nil, List.length_append,
    Bytes.length_ofNatBE, List.length_nil]
  omega

end Sha2

/-! ## SHA-256 -/

/-- SHA-256: the fractional bits of roots of the first primes are its constants. -/
def sha256Variant : Sha2Variant 32 where
  big0 := (2, 13, 22)
  big1 := (6, 11, 25)
  small0 := (7, 18, 3)
  small1 := (17, 19, 10)
  constants := [
    0x428a2f98, 0x71374491, 0xb5c0fbcf, 0xe9b5dba5, 0x3956c25b, 0x59f111f1, 0x923f82a4, 0xab1c5ed5,
    0xd807aa98, 0x12835b01, 0x243185be, 0x550c7dc3, 0x72be5d74, 0x80deb1fe, 0x9bdc06a7, 0xc19bf174,
    0xe49b69c1, 0xefbe4786, 0x0fc19dc6, 0x240ca1cc, 0x2de92c6f, 0x4a7484aa, 0x5cb0a9dc, 0x76f988da,
    0x983e5152, 0xa831c66d, 0xb00327c8, 0xbf597fc7, 0xc6e00bf3, 0xd5a79147, 0x06ca6351, 0x14292967,
    0x27b70a85, 0x2e1b2138, 0x4d2c6dfc, 0x53380d13, 0x650a7354, 0x766a0abb, 0x81c2c92e, 0x92722c85,
    0xa2bfe8a1, 0xa81a664b, 0xc24b8b70, 0xc76c51a3, 0xd192e819, 0xd6990624, 0xf40e3585, 0x106aa070,
    0x19a4c116, 0x1e376c08, 0x2748774c, 0x34b0bcb5, 0x391c0cb3, 0x4ed8aa4a, 0x5b9cca4f, 0x682e6ff3,
    0x748f82ee, 0x78a5636f, 0x84c87814, 0x8cc70208, 0x90befffa, 0xa4506ceb, 0xbef9a3f7, 0xc67178f2
  ]
  initial := ⟨
    0x6a09e667, 0xbb67ae85, 0x3c6ef372, 0xa54ff53a,
    0x510e527f, 0x9b05688c, 0x1f83d9ab, 0x5be0cd19
  ⟩

def sha256 (message : Bytes) : Bytes := Sha2.digest sha256Variant message

@[simp] theorem length_sha256 (message : Bytes) : (sha256 message).length = 32 :=
  Sha2.length_digest sha256Variant message

/-! ## SHA-512 -/

def sha512Variant : Sha2Variant 64 where
  big0 := (28, 34, 39)
  big1 := (14, 18, 41)
  small0 := (1, 8, 7)
  small1 := (19, 61, 6)
  constants := [
    0x428a2f98d728ae22, 0x7137449123ef65cd, 0xb5c0fbcfec4d3b2f, 0xe9b5dba58189dbbc,
    0x3956c25bf348b538, 0x59f111f1b605d019, 0x923f82a4af194f9b, 0xab1c5ed5da6d8118,
    0xd807aa98a3030242, 0x12835b0145706fbe, 0x243185be4ee4b28c, 0x550c7dc3d5ffb4e2,
    0x72be5d74f27b896f, 0x80deb1fe3b1696b1, 0x9bdc06a725c71235, 0xc19bf174cf692694,
    0xe49b69c19ef14ad2, 0xefbe4786384f25e3, 0x0fc19dc68b8cd5b5, 0x240ca1cc77ac9c65,
    0x2de92c6f592b0275, 0x4a7484aa6ea6e483, 0x5cb0a9dcbd41fbd4, 0x76f988da831153b5,
    0x983e5152ee66dfab, 0xa831c66d2db43210, 0xb00327c898fb213f, 0xbf597fc7beef0ee4,
    0xc6e00bf33da88fc2, 0xd5a79147930aa725, 0x06ca6351e003826f, 0x142929670a0e6e70,
    0x27b70a8546d22ffc, 0x2e1b21385c26c926, 0x4d2c6dfc5ac42aed, 0x53380d139d95b3df,
    0x650a73548baf63de, 0x766a0abb3c77b2a8, 0x81c2c92e47edaee6, 0x92722c851482353b,
    0xa2bfe8a14cf10364, 0xa81a664bbc423001, 0xc24b8b70d0f89791, 0xc76c51a30654be30,
    0xd192e819d6ef5218, 0xd69906245565a910, 0xf40e35855771202a, 0x106aa07032bbd1b8,
    0x19a4c116b8d2d0c8, 0x1e376c085141ab53, 0x2748774cdf8eeb99, 0x34b0bcb5e19b48a8,
    0x391c0cb3c5c95a63, 0x4ed8aa4ae3418acb, 0x5b9cca4f7763e373, 0x682e6ff3d6b2b8a3,
    0x748f82ee5defb2fc, 0x78a5636f43172f60, 0x84c87814a1f0ab72, 0x8cc702081a6439ec,
    0x90befffa23631e28, 0xa4506cebde82bde9, 0xbef9a3f7b2c67915, 0xc67178f2e372532b,
    0xca273eceea26619c, 0xd186b8c721c0c207, 0xeada7dd6cde0eb1e, 0xf57d4f7fee6ed178,
    0x06f067aa72176fba, 0x0a637dc5a2c898a6, 0x113f9804bef90dae, 0x1b710b35131c471b,
    0x28db77f523047d84, 0x32caab7b40c72493, 0x3c9ebe0a15c9bebc, 0x431d67c49c100d4c,
    0x4cc5d4becb3e42b6, 0x597f299cfc657e2a, 0x5fcb6fab3ad6faec, 0x6c44198c4a475817
  ]
  initial := ⟨
    0x6a09e667f3bcc908, 0xbb67ae8584caa73b, 0x3c6ef372fe94f82b, 0xa54ff53a5f1d36f1,
    0x510e527fade682d1, 0x9b05688c2b3e6c1f, 0x1f83d9abfb41bd6b, 0x5be0cd19137e2179
  ⟩

def sha512 (message : Bytes) : Bytes := Sha2.digest sha512Variant message

end DeviceTrust.Hash
