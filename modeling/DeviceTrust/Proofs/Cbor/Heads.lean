import DeviceTrust.Bytes.Lemmas
import DeviceTrust.Cbor.Decode
import DeviceTrust.Cbor.Encode

/-!
# Reading back heads and strings

A reader takes an encoding off the front of some bytes and gives what it stands for, whatever
follows (`Reads`). This file shows it for the parts of an item: the head in its five widths
(`head_spec`), strings of definite length (`reads_string`), and texts (`textOf?_ofText`).
-/

set_option autoImplicit false

namespace DeviceTrust

/-! ## The bytes of a text -/

theorem toList_loop_eq (b : ByteArray) (i : Nat) (r : List UInt8) :
    ByteArray.toList.loop b i r = r.reverse ++ b.data.toList.drop i := by
  fun_induction ByteArray.toList.loop b i r with
  | case1 i r h ih =>
      have hi : i < b.data.toList.length := h
      have hget : b.get! i = b.data.toList[i] := by
        rw [Array.getElem_toList]
        exact getElem!_pos b.data i h
      rw [ih, List.drop_eq_getElem_cons hi, List.reverse_cons, List.append_assoc, hget]
      rfl
  | case2 i r h =>
      have hi : b.data.toList.length ≤ i := Nat.le_of_not_lt h
      rw [List.drop_eq_nil_of_le hi, List.append_nil]

theorem Cbor.textOf?_ofText (s : String) : textOf? (Bytes.ofText s) = some s := by
  have hbytes : (⟨(Bytes.ofText s).toArray⟩ : ByteArray) = s.toUTF8 := by
    have hlist : Bytes.ofText s = s.toUTF8.data.toList := toList_loop_eq s.toUTF8 0 []
    rw [hlist]
  unfold textOf?
  rw [hbytes]
  exact dif_pos s.isValidUTF8

namespace Cbor

/-- **A reader takes an encoding off the front** and gives what it stands for, whatever follows. -/
def Reads {α : Type} (reader : Bytes → Option (α × Bytes)) (encoded : Bytes) (a : α) : Prop :=
  ∀ rest, reader (encoded ++ rest) = some (a, rest)

/-- **What a reader can take off the front cannot run into what follows**: bytes that begin with two
encodings stand for one thing, and go on in one way. -/
theorem Reads.append_inj {α : Type} {reader : Bytes → Option (α × Bytes)} {x y : Bytes} {a b : α}
    (hx : Reads reader x a) (hy : Reads reader y b) {rest rest' : Bytes}
    (h : x ++ rest = y ++ rest') : a = b ∧ rest = rest' := by
  have hread := hx rest
  rw [h, hy rest'] at hread
  cases hread
  exact ⟨rfl, rfl⟩

/-! ## Heads -/

theorem takeBytes_append (b rest : Bytes) : takeBytes b.length (b ++ rest) = some (b, rest) := by
  simp [takeBytes]

/-- The first byte of a head tells the major type and the lower five bits apart. -/
theorem first_split {major info : Nat} (hm : major < 8) (hi : info < 32) :
    (UInt8.ofNat (32 * major + info)).toNat / 32 = major ∧
      (UInt8.ofNat (32 * major + info)).toNat % 32 = info := by
  have hvalue : (UInt8.ofNat (32 * major + info)).toNat = 32 * major + info := by
    rw [UInt8.toNat_ofNat']
    omega
  rw [hvalue]
  omega

/-- An argument in `2 ^ i` bytes is read back. -/
theorem reads_argument {i n : Nat} (hi : i < 4) (hn : n < 256 ^ (1 <<< i)) :
    Reads (argument (24 + i)) (Bytes.ofNatBE (1 <<< i) n) n := by
  intro rest
  have htake := takeBytes_append (Bytes.ofNatBE (1 <<< i) n) rest
  rw [Bytes.length_ofNatBE] at htake
  have hshort : ¬ 24 + i < 24 := by omega
  have hlong : 24 + i < 28 := by omega
  have hwidth : 24 + i - 24 = i := by omega
  rw [argument, if_neg hshort, if_pos hlong, hwidth, htake]
  show some (Bytes.toNatBE (Bytes.ofNatBE (1 <<< i) n), rest) = _
  rw [Bytes.toNatBE_ofNatBE hn]

/-- **A head is read back**: its first byte gives the major type, and its argument is the number,
in whatever width it was written. -/
theorem head_spec {major n : Nat} (hm : major < 8) (hn : n < 2 ^ 64) :
    ∃ first tail, head major n = first :: tail ∧ first.toNat / 32 = major ∧
      first.toNat % 32 < 28 ∧ Reads (argument (first.toNat % 32)) tail n := by
  -- the number itself, or one of the four widths
  have hparts : ∃ info tail, info < 28 ∧ head major n = UInt8.ofNat (32 * major + info) :: tail ∧
      Reads (argument info) tail n := by
    unfold head
    by_cases h₀ : n < 24
    · refine ⟨n, [], by omega, if_pos h₀, fun rest => ?_⟩
      rw [argument, if_pos h₀]
      rfl
    · rw [if_neg h₀]
      by_cases h₁ : n < 0x100
      · exact ⟨24, _, by decide, if_pos h₁, reads_argument (i := 0) (by decide) h₁⟩
      · rw [if_neg h₁]
        by_cases h₂ : n < 0x10000
        · exact ⟨25, _, by decide, if_pos h₂, reads_argument (i := 1) (by decide) h₂⟩
        · rw [if_neg h₂]
          by_cases h₃ : n < 0x100000000
          · exact ⟨26, _, by decide, if_pos h₃, reads_argument (i := 2) (by decide) h₃⟩
          · exact ⟨27, _, by decide, if_neg h₃, reads_argument (i := 3) (by decide) hn⟩
  obtain ⟨info, tail, hinfo, hhead, hreads⟩ := hparts
  obtain ⟨hmajor, hlow⟩ := first_split hm (show info < 32 by omega)
  refine ⟨_, tail, hhead, hmajor, ?_, ?_⟩
  · rw [hlow]
    exact hinfo
  · rw [hlow]
    exact hreads

theorem length_head_le (major n : Nat) : (head major n).length ≤ 9 := by
  unfold head
  dsimp only
  split
  · simp
  · split
    · simp
    · split
      · simp
      · split <;> simp

theorem length_encodeBytes_le (b : Bytes) : (encodeBytes b).length ≤ 9 + b.length := by
  have hhead := length_head_le 2 b.length
  rw [encodeBytes, List.length_append]
  omega

/-! ## Strings -/

/-- A string of definite length is read back, as its only chunk. -/
theorem reads_string (major : Nat) {info : Nat} {tail s : Bytes} (hi : info < 28)
    (h : Reads (argument info) tail s.length) :
    Reads (readString major info) (tail ++ s) [s] := by
  intro rest
  have hdefinite : ¬ info = 31 := by omega
  rw [readString, if_neg hdefinite, readDefinite, List.append_assoc, h (s ++ rest)]
  show (takeBytes s.length (s ++ rest)).map _ = _
  rw [takeBytes_append]
  rfl

end Cbor

end DeviceTrust
