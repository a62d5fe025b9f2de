import DeviceTrust.Hash.Hkdf

/-!
# The outputs of a key derivation

A derivation extracts a key from a secret by the keyed hash under the salt, and expands it block by
block: each block is the keyed hash of the block before it, the context, and its own number in one
byte (`Hkdf.IsBlock`). An output is the front of as many blocks as it takes (`Hkdf.IsOutput`). No
block has a number beyond 255, so that there is no output of more than 8160 bytes; up to there `expand`
writes the one output of each length (`Hkdf.isOutput_iff`), and the shorter of two outputs is the front
of the longer one (`Hkdf.expand_take`).

A short key of the keyed hash is filled up with zeros, so that zeros at its end do not count
(`hmac_append_zeros`). This makes one salt of none, the empty one and 32 zeros.
-/

set_option autoImplicit false

namespace DeviceTrust.Hash

/-! ## Keys of the keyed hash -/

/-- The key block is full of whatever zeros a short key ends in. -/
theorem hmacKeyBlock_append_zeros {key : Bytes} {n : Nat} (h : key.length + n ≤ 64) :
    hmacKeyBlock (key ++ Bytes.zeros n) = hmacKeyBlock key := by
  have hlength : (key ++ Bytes.zeros n).length = key.length + n := by
    simp [Bytes.zeros]
  have hlong : ¬ 64 < key.length + n := by omega
  have hshort : ¬ 64 < key.length := by omega
  have hfill : n + (64 - (key.length + n)) = 64 - key.length := by omega
  unfold hmacKeyBlock
  simp only [hlength, gt_iff_lt, if_neg hlong, if_neg hshort]
  calc key ++ Bytes.zeros n ++ Bytes.zeros (64 - (key.length + n))
      = key ++ (Bytes.zeros n ++ Bytes.zeros (64 - (key.length + n))) := List.append_assoc _ _ _
    _ = key ++ Bytes.zeros (n + (64 - (key.length + n))) := by
        simp only [Bytes.zeros, List.replicate_append_replicate]
    _ = key ++ Bytes.zeros (64 - key.length) := by rw [hfill]

/-- **Zeros at the end of a short key do not count.** -/
theorem hmac_append_zeros {key : Bytes} {n : Nat} (h : key.length + n ≤ 64) (message : Bytes) :
    hmac (key ++ Bytes.zeros n) message = hmac key message := by
  unfold hmac
  rw [hmacKeyBlock_append_zeros h]

theorem hmac_zeros {n : Nat} (h : n ≤ 64) (message : Bytes) :
    hmac (Bytes.zeros n) message = hmac [] message := by
  rw [← List.nil_append (Bytes.zeros n)]
  exact hmac_append_zeros (by simpa using h) message

namespace Hkdf

variable {prk info : Bytes}

/-- **The extracted key** is the keyed hash under the salt; no salt is the empty one. -/
theorem extract_eq (salt : Option Bytes) (secret : Bytes) :
    extract salt secret = hmac (salt.getD []) secret := by
  have hzeros : hmac (Bytes.zeros 32) secret = hmac [] secret := hmac_zeros (by decide) secret
  unfold extract
  split
  · rw [hzeros, Option.getD_none]
  · rw [hzeros, Option.getD_some]
  · rw [Option.getD_some]

/-! ## Blocks -/

/-- **The blocks of an output.** The number of a block is written in one byte as it is. -/
inductive IsBlock (prk info : Bytes) : Nat → Bytes → Prop
  | start : IsBlock prk info 0 []
  | next {i : Nat} {previous : Bytes} {counter : UInt8} (hprevious : IsBlock prk info i previous)
      (hcounter : counter.toNat = i + 1) :
      IsBlock prk info (i + 1) (hmac prk (previous ++ info ++ [counter]))

theorem IsBlock.le {i : Nat} {b : Bytes} (h : IsBlock prk info i b) : i ≤ 255 := by
  cases h with
  | start => exact Nat.zero_le 255
  | @next _ _ counter _ hcounter =>
      have hbyte := counter.toNat_lt
      omega

theorem toNat_counter {i : Nat} (h : i ≤ 255) : (UInt8.ofNat i).toNat = i := by
  rw [UInt8.toNat_ofNat']
  exact Nat.mod_eq_of_lt (by omega)

theorem isBlock_block {i : Nat} (h : i ≤ 255) : IsBlock prk info i (block prk info i) := by
  induction i with
  | zero => exact .start
  | succ i ih => exact .next (ih (by omega)) (toNat_counter h)

theorem IsBlock.eq_block {i : Nat} {b : Bytes} (h : IsBlock prk info i b) :
    b = block prk info i := by
  induction h with
  | start => rfl
  | @next i previous counter hprevious hcounter ih =>
      have hle : i + 1 ≤ 255 := (IsBlock.next hprevious hcounter).le
      have hbyte : counter = UInt8.ofNat (i + 1) := by
        apply UInt8.toNat_inj.mp
        rw [hcounter, toNat_counter hle]
      rw [block, ← ih, ← hbyte]

/-! ## Outputs -/

/-- **An output of a length**: the front of as many blocks as it takes, numbered from 1 on. -/
def IsOutput (prk info : Bytes) (length : Nat) (output : Bytes) : Prop :=
  ∃ blocks : List Bytes, blocks.length = (length + 31) / 32 ∧
    (∀ i b, blocks[i]? = some b → IsBlock prk info (i + 1) b) ∧
    output = blocks.flatten.take length

/-- An output that takes so many blocks is the front of any more of them. -/
theorem expand_eq_take {length count : Nat} (h : length ≤ 32 * count) :
    expand prk info length
      = ((List.range' 1 count).flatMap (block prk info)).take length := by
  have hcount : (length + 31) / 32 ≤ count := by omega
  obtain ⟨more, rfl⟩ := Nat.exists_eq_add_of_le hcount
  have hfront := blocksFrom_eq_flatMap prk info ((length + 31) / 32) 0
  have hlength : length ≤ (blocksFrom prk info ((length + 31) / 32) 0 []).length := by
    rw [length_blocksFrom]
    omega
  rw [expand, ← List.range'_append_1, List.flatMap_append, ← hfront]
  exact (List.take_append_of_le_length hlength).symm

theorem length_expand (prk info : Bytes) (length : Nat) :
    (expand prk info length).length = length := by
  rw [expand, List.length_take, length_blocksFrom]
  omega

/-- **The shorter of two outputs is the front of the longer one.** -/
theorem expand_take {n m : Nat} (h : n ≤ m) :
    (expand prk info m).take n = expand prk info n := by
  have hcount : m ≤ 32 * ((m + 31) / 32) := by omega
  rw [expand_eq_take hcount, expand_eq_take (Nat.le_trans h hcount), List.take_take,
    Nat.min_eq_left h]

theorem isOutput_expand {length : Nat} (h : length ≤ 8160) :
    IsOutput prk info length (expand prk info length) := by
  refine ⟨(List.range' 1 ((length + 31) / 32)).map (block prk info), by simp, fun i b hb => ?_, ?_⟩
  · rw [List.getElem?_map, Option.map_eq_some_iff] at hb
    obtain ⟨j, hj, rfl⟩ := hb
    obtain ⟨hi, hj⟩ := List.getElem?_eq_some_iff.1 hj
    rw [List.length_range'] at hi
    rw [List.getElem_range'] at hj
    have hnumber : j = i + 1 := by omega
    rw [hnumber]
    exact isBlock_block (by omega)
  · rw [← List.flatMap_def]
    exact expand_eq_take (by omega)

/-- An output is the one that is written, and takes no more than 255 blocks. -/
theorem IsOutput.eq_expand {length : Nat} {output : Bytes} (h : IsOutput prk info length output) :
    length ≤ 8160 ∧ output = expand prk info length := by
  obtain ⟨blocks, hcount, hblocks, rfl⟩ := h
  have hall : blocks = (List.range' 1 ((length + 31) / 32)).map (block prk info) := by
    apply List.ext_getElem (by simpa using hcount)
    intro i hi _
    rw [(hblocks i blocks[i] (List.getElem?_eq_getElem hi)).eq_block, List.getElem_map,
      List.getElem_range', Nat.one_mul, Nat.add_comm]
  constructor
  · -- the last block has a number that is a byte
    refine Nat.le_of_not_lt fun hlong => ?_
    have hlast : blocks.length - 1 < blocks.length := by omega
    have hle := (hblocks _ _ (List.getElem?_eq_getElem hlast)).le
    omega
  · rw [hall, ← List.flatMap_def]
    exact (expand_eq_take (by omega)).symm

/-- **The outputs**: one of each length up to 8160, and no more. -/
theorem isOutput_iff {length : Nat} {output : Bytes} :
    IsOutput prk info length output ↔ length ≤ 8160 ∧ expand prk info length = output := by
  constructor
  · intro h
    exact ⟨h.eq_expand.1, h.eq_expand.2.symm⟩
  · rintro ⟨hlength, rfl⟩
    exact isOutput_expand hlength

end Hkdf

end DeviceTrust.Hash
