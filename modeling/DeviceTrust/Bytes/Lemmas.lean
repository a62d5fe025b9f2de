import Mathlib
import DeviceTrust.Bytes

/-!
# Numbers written in bytes

Main statement: a number below `256 ^ n` survives the way through `n` bytes
(`toNatBE_ofNatBE`).
-/

set_option autoImplicit false

namespace DeviceTrust.Bytes

theorem toNatLE_ofNatLE (width n : Nat) : toNatLE (ofNatLE width n) = n % 256 ^ width := by
  induction width generalizing n with
  | zero => simp [ofNatLE, toNatLE, Nat.mod_one]
  | succ width ih =>
    have hx : (UInt8.ofNat n).toNat = n % 256 := UInt8.toNat_ofNat'
    rw [ofNatLE, toNatLE, ih, hx, Nat.pow_succ', Nat.mod_mul (x := n)]

theorem toNatLE_lt (b : Bytes) : toNatLE b < 256 ^ b.length := by
  induction b with
  | nil => simp [toNatLE]
  | cons x r ih =>
    have hx : x.toNat < 256 := x.toNat_lt
    simp only [toNatLE, List.length_cons, Nat.pow_succ']
    omega

/-- **Reading back a number**: a number that fits survives the way through its bytes. -/
theorem toNatBE_ofNatBE {width n : Nat} (h : n < 256 ^ width) : toNatBE (ofNatBE width n) = n := by
  simp only [toNatBE, ofNatBE, List.reverse_reverse, toNatLE_ofNatLE]
  exact Nat.mod_eq_of_lt h

end DeviceTrust.Bytes
