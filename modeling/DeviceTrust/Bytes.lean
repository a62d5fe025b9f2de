/-!
# Byte strings

A byte string is a list of bytes. This module holds the conversions between byte strings and
numbers, the bitwise combination of two strings, the split into blocks, and hexadecimal text.

Main statements: a byte string survives the way through its number (`ofNatBE_toNatBE`), and
combining twice with the same string changes nothing (`xor_xor_cancel`).
-/

set_option autoImplicit false

namespace DeviceTrust

abbrev Bytes := List UInt8

namespace Bytes

/-! ## Numbers -/

/-- The number whose base-256 digits are the bytes, least significant first. -/
def toNatLE : Bytes → Nat
  | [] => 0
  | x :: r => x.toNat + 256 * toNatLE r

/-- The `width` lowest base-256 digits of a number, least significant first. -/
def ofNatLE : (width : Nat) → Nat → Bytes
  | 0, _ => []
  | width + 1, n => UInt8.ofNat n :: ofNatLE width (n / 256)

/-- The number whose base-256 digits are the bytes, most significant first. -/
def toNatBE (b : Bytes) : Nat := toNatLE b.reverse

/-- The `width` lowest base-256 digits of a number, most significant first. -/
def ofNatBE (width n : Nat) : Bytes := (ofNatLE width n).reverse

/-- The number of base-256 digits of a number; zero has none. -/
def digitCount (n : Nat) : Nat := if n = 0 then 0 else n.log2 / 8 + 1

/-- The base-256 digits of a number without leading zeros, most significant first. -/
def minimalBE (n : Nat) : Bytes := ofNatBE (digitCount n) n

@[simp] theorem length_ofNatLE (width n : Nat) : (ofNatLE width n).length = width := by
  induction width generalizing n with
  | zero => rfl
  | succ width ih => simp [ofNatLE, ih]

@[simp] theorem length_ofNatBE (width n : Nat) : (ofNatBE width n).length = width := by
  simp [ofNatBE]

theorem ofNatLE_toNatLE (b : Bytes) : ofNatLE b.length (toNatLE b) = b := by
  induction b with
  | nil => rfl
  | cons x r ih =>
    have hx : x.toNat < 256 := x.toNat_lt
    have hq : (x.toNat + 256 * toNatLE r) / 256 = toNatLE r := by omega
    have hr : UInt8.ofNat (x.toNat + 256 * toNatLE r) = x := by
      apply UInt8.toNat_inj.mp
      rw [UInt8.toNat_ofNat']
      omega
    simp only [List.length_cons, toNatLE, ofNatLE, hq, hr, ih]

/-- **Reading back bytes**: a byte string survives the way through its number. -/
theorem ofNatBE_toNatBE (b : Bytes) : ofNatBE b.length (toNatBE b) = b := by
  have h := ofNatLE_toNatLE b.reverse
  rw [List.length_reverse] at h
  simp only [ofNatBE, toNatBE, h, List.reverse_reverse]

/-! ## Combining and splitting -/

/-- The bitwise exclusive or, as long as the shorter string. -/
def xor (a b : Bytes) : Bytes := List.zipWith (· ^^^ ·) a b

@[simp] theorem length_xor (a b : Bytes) : (xor a b).length = min a.length b.length := by
  simp [xor]

/-- **Cancellation**: combining twice with the same string, at least as long, changes nothing. -/
theorem xor_xor_cancel {a k : Bytes} (h : a.length ≤ k.length) : xor (xor a k) k = a := by
  induction a generalizing k with
  | nil => rfl
  | cons x r ih =>
    cases k with
    | nil => simp at h
    | cons y ks =>
      have hx : x ^^^ y ^^^ y = x := by
        rw [UInt8.xor_assoc, UInt8.xor_self, UInt8.xor_zero]
      have hr := ih (k := ks) (by simpa using h)
      simp only [xor] at hr
      simp only [xor, List.zipWith_cons_cons, hx, hr]

def zeros (n : Nat) : Bytes := List.replicate n 0

/-- The first `count` blocks of `size` bytes; a block past the end is short or empty. -/
def blocks (size : Nat) : (count : Nat) → Bytes → List Bytes
  | 0, _ => []
  | count + 1, b => b.take size :: blocks size count (b.drop size)

/-- The string with the fewest zero bytes added that makes its length a multiple of `size`. -/
def padTo (size : Nat) (b : Bytes) : Bytes :=
  b ++ zeros ((size - b.length % size) % size)

/-! ## Hexadecimal text -/

def hexDigit (n : Nat) : Char :=
  if n < 10 then Char.ofNat (48 + n) else Char.ofNat (87 + n)

def hex (b : Bytes) : String :=
  String.ofList (b.flatMap fun x => [hexDigit (x.toNat / 16), hexDigit (x.toNat % 16)])

def ofText (s : String) : Bytes := s.toUTF8.toList

end Bytes

end DeviceTrust
