import DeviceTrust.Proofs.Cbor.Heads

/-!
# What a reader reads as one item

For each sort of item there is a lemma that says what is read of its encoding. An item with others
nested in it is read once these are, with whatever reader they are left to. What is read of a string
tells it apart from what follows it (`encodeBytes_append_inj`, `encodeText_append_inj`).
-/

set_option autoImplicit false

namespace DeviceTrust

/-! ## Floating-point numbers -/

namespace Binary64

theorem isNaN_of_meaning {x : Binary64} (h : x.meaning = .notANumber) : x.isNaN = true := by
  unfold meaning at h
  dsimp only at h
  split at h
  · rename_i he
    split at h
    · cases h
    · rename_i hf
      simp [isNaN, he, hf]
  · split at h <;> cases h

theorem eq_infinity_of_meaning {x : Binary64} {negative : Bool}
    (h : x.meaning = .infinite negative) : x = infinity negative := by
  unfold meaning at h
  dsimp only at h
  split at h
  · rename_i he
    split at h
    · rename_i hf
      cases h
      obtain ⟨bits⟩ := x
      have hlt : bits.toNat < 2 ^ 64 := bits.toNat_lt
      have hexponent : bits.toNat / 0x10000000000000 % 2048 = 2047 := by
        rw [← he, exponentField, Nat.shiftRight_eq_div_pow]
      have hfraction : bits.toNat % 0x10000000000000 = 0 := hf
      -- exponent and fraction leave only the sign open
      have hcases : bits.toNat = 0x7ff0000000000000 ∨ bits.toNat = 0xfff0000000000000 := by omega
      rcases hcases with hb | hb
      · have hbits : bits = 0x7ff0000000000000 := UInt64.toNat_inj.1 hb
        rw [hbits]
        decide
      · have hbits : bits = 0xfff0000000000000 := UInt64.toNat_inj.1 hb
        rw [hbits]
        decide
    · cases h
  · split at h <;> cases h

end Binary64

namespace Cbor

/-! ## Items -/

section Items

variable (inner : Option Reader) (frozen : Bool)

theorem readItem_unsigned {n : Nat} (hn : n < 2 ^ 64) :
    Reads (readItem inner frozen) (head 0 n) (.int n) := by
  obtain ⟨first, tail, hhead, hmajor, -, harg⟩ := head_spec (by decide : 0 < 8) hn
  intro rest
  rw [hhead, List.cons_append]
  simp only [readItem, hmajor, harg rest, Option.map_some]

theorem readItem_negative {n : Nat} (hn : n < 2 ^ 64) :
    Reads (readItem inner frozen) (head 1 n) (.int (.negSucc n)) := by
  obtain ⟨first, tail, hhead, hmajor, -, harg⟩ := head_spec (by decide : 1 < 8) hn
  intro rest
  rw [hhead, List.cons_append]
  simp only [readItem, hmajor, harg rest, Option.map_some]

theorem readItem_bytes {b : Bytes} (hb : b.length < 2 ^ 64) :
    Reads (readItem inner frozen) (encodeBytes b) (.bytes b) := by
  obtain ⟨first, tail, hhead, hmajor, hinfo, harg⟩ := head_spec (by decide : 2 < 8) hb
  intro rest
  have hstring := reads_string 2 hinfo harg rest
  rw [encodeBytes, hhead, List.cons_append, List.cons_append]
  simp only [readItem, hmajor, hstring, Option.map_some, List.flatten_cons, List.flatten_nil,
    List.append_nil]

theorem readItem_text {s : String} (hs : (Bytes.ofText s).length < 2 ^ 64) :
    Reads (readItem inner frozen) (encodeText s) (.text s) := by
  obtain ⟨first, tail, hhead, hmajor, hinfo, harg⟩ := head_spec (by decide : 3 < 8) hs
  intro rest
  have hstring := reads_string 3 hinfo harg rest
  have hjoin : String.join [s] = s := by simp [String.join]
  rw [encodeText, hhead, List.cons_append, List.cons_append]
  simp only [readItem, hmajor, hstring, Option.bind_eq_bind, Option.bind_some, List.mapM_cons,
    List.mapM_nil, textOf?_ofText, Option.pure_def, hjoin]

theorem afterNone?_of_reads {info n : Nat} {tail : Bytes} (h : Reads (argument info) tail n)
    (rest : Bytes) : afterNone? info (tail ++ rest) = if n = 0 then some rest else none := by
  rw [afterNone?, h rest]
  cases n <;> rfl

def arrayOf (items : List Value) : Value := if frozen then .tuple items else .list items

def mapOf (es : Entries) : Value := .map (if frozen then .frozen else .plain) (Entries.ofList es)

theorem readItem_noItems : Reads (readItem inner frozen) (head 4 0) (arrayOf frozen []) := by
  obtain ⟨first, tail, hhead, hmajor, -, harg⟩ := head_spec (by decide : 4 < 8) (n := 0) (by decide)
  intro rest
  rw [hhead, List.cons_append]
  simp only [readItem, hmajor, afterNone?_of_reads harg, if_pos, Option.bind_eq_bind,
    Option.bind_some]
  rfl

theorem readItem_noEntries : Reads (readItem inner frozen) (head 5 0) (mapOf frozen []) := by
  obtain ⟨first, tail, hhead, hmajor, -, harg⟩ := head_spec (by decide : 5 < 8) (n := 0) (by decide)
  intro rest
  rw [hhead, List.cons_append]
  simp only [readItem, hmajor, afterNone?_of_reads harg, if_pos, Option.bind_eq_bind,
    Option.bind_some]
  rfl

theorem readItem_items {item : Reader} {items : List Value} {b : Bytes} (hn : 0 < items.length)
    (hb : items.length ≤ b.length) (hlength : b.length < 2 ^ 64)
    (h : Reads (readItems (item frozen) items.length) b items) :
    Reads (readItem (some item) frozen) (head 4 items.length ++ b) (arrayOf frozen items) := by
  obtain ⟨first, tail, hhead, hmajor, hinfo, harg⟩ :=
    head_spec (by decide : 4 < 8) (show items.length < 2 ^ 64 by omega)
  intro rest
  have hsome : ¬ items.length = 0 := by omega
  have hdefinite : ¬ first.toNat % 32 = 31 := by omega
  -- the reader refuses a count that the bytes left cannot reach
  have henough : ¬ (b ++ rest).length < items.length := by simp; omega
  have harray : readArray (item frozen) (first.toNat % 32) (tail ++ (b ++ rest))
      = some (items, rest) := by
    rw [readArray, if_neg hdefinite, harg (b ++ rest)]
    show (if (b ++ rest).length < items.length then none
      else readItems (item frozen) items.length (b ++ rest)) = _
    rw [if_neg henough, h rest]
  rw [hhead, List.append_assoc, List.cons_append]
  simp only [readItem, hmajor, afterNone?_of_reads harg, if_neg hsome, Option.bind_some, harray,
    Option.bind_eq_bind]
  rfl

theorem readItem_entries {item : Reader} {es : Entries} {b : Bytes} (hn : 0 < es.length)
    (hb : es.length ≤ b.length) (hlength : b.length < 2 ^ 64)
    (h : Reads (readEntries (readEntry item frozen) es.length) b es) :
    Reads (readItem (some item) frozen) (head 5 es.length ++ b) (mapOf frozen es) := by
  obtain ⟨first, tail, hhead, hmajor, hinfo, harg⟩ :=
    head_spec (by decide : 5 < 8) (show es.length < 2 ^ 64 by omega)
  intro rest
  have hsome : ¬ es.length = 0 := by omega
  have hdefinite : ¬ first.toNat % 32 = 31 := by omega
  have henough : ¬ (b ++ rest).length < es.length := by simp; omega
  have hmap : readMap (readEntry item frozen) (first.toNat % 32) (tail ++ (b ++ rest))
      = some (es, rest) := by
    rw [readMap, if_neg hdefinite, harg (b ++ rest)]
    show (if (b ++ rest).length < es.length then none
      else readEntries (readEntry item frozen) es.length (b ++ rest)) = _
    rw [if_neg henough, h rest]
  rw [hhead, List.append_assoc, List.cons_append]
  simp only [readItem, hmajor, afterNone?_of_reads harg, if_neg hsome, Option.bind_some, hmap,
    Option.bind_eq_bind]
  rfl

theorem readItem_tag {item : Reader} {number : Nat} {b : Bytes} {content meaning : Value}
    (hn : number < 2 ^ 64) (h : Reads (item (frozen || freezesContent number)) b content)
    (hmeaning : interpret? frozen number content = some meaning) :
    Reads (readItem (some item) frozen) (head 6 number ++ b) meaning := by
  obtain ⟨first, tail, hhead, hmajor, -, harg⟩ := head_spec (by decide : 6 < 8) hn
  intro rest
  rw [hhead, List.append_assoc, List.cons_append]
  simp only [readItem, hmajor, harg (b ++ rest), h rest, hmeaning, Option.bind_eq_bind,
    Option.bind_some, Option.pure_def]

/-! ## Simple values and numbers -/

theorem readItem_eq_readSimple {first : UInt8} (h : first.toNat / 32 = 7) (rest : Bytes) :
    readItem inner frozen (first :: rest) = readSimple (first.toNat % 32) rest := by
  simp only [readItem, h]

/-- A simple value without a meaning stays, unless its code is kept for heads. -/
theorem readItem_simple {code : UInt8} (h : code.toNat < 20 ∨ 32 ≤ code.toNat) :
    Reads (readItem inner frozen) (encodeSimple code) (.simple code) := by
  have hcode : code.toNat < 256 := code.toNat_lt
  have hvalue : simpleOf code.toNat = .simple code := by
    have hback : UInt8.ofNat code.toNat = code := UInt8.ofNat_toNat
    rw [simpleOf, if_neg (by omega), if_neg (by omega), if_neg (by omega), if_neg (by omega), hback]
  intro rest
  rcases h with h | h
  · -- the code stands in the head itself
    have hhead : encodeSimple code = [UInt8.ofNat (32 * 7 + code.toNat)] := by
      rw [encodeSimple, head, if_pos (by omega)]
    obtain ⟨hmajor, hlow⟩ := first_split (by decide : 7 < 8) (show code.toNat < 32 by omega)
    rw [hhead, List.singleton_append, readItem_eq_readSimple _ _ hmajor, hlow, readSimple,
      if_pos (by omega), hvalue]
  · -- the code stands in a byte of its own
    have hhead : encodeSimple code = UInt8.ofNat (32 * 7 + 24) :: Bytes.ofNatBE 1 code.toNat := by
      rw [encodeSimple, head, if_neg (by omega), if_pos (by omega)]
    have htake := takeBytes_append (Bytes.ofNatBE 1 code.toNat) rest
    rw [Bytes.length_ofNatBE] at htake
    have hnumber : Bytes.toNatBE (Bytes.ofNatBE 1 code.toNat) = code.toNat :=
      Bytes.toNatBE_ofNatBE (by omega)
    have hinfo : (UInt8.ofNat (32 * 7 + 24)).toNat % 32 = 24 := by decide
    have hkept : ¬ code.toNat < 32 := by omega
    rw [hhead, List.cons_append, readItem_eq_readSimple _ _ (by decide), hinfo]
    simp [readSimple, htake, hnumber, hkept, hvalue]

theorem readItem_half (a b : UInt8) (rest : Bytes) :
    readItem inner frozen (0xf9 :: a :: b :: rest)
      = some (floatOf (.ofHalf (Bytes.toNatBE [a, b])), rest) := rfl

/-- A floating-point number is read back; of a not-a-number the payload is not written. -/
theorem readItem_float (x : Binary64) :
    Reads (readItem inner frozen) (encodeFloat x) (.float x.withoutPayload) := by
  intro rest
  cases h : x.meaning with
  | notANumber =>
      -- every one of them is written as the same two bytes
      have hhead : encodeFloat x = [0xf9, 0x7e, 0x00] := by rw [encodeFloat, h]
      have hvalue : (Binary64.ofHalf (Bytes.toNatBE [0x7e, 0])).withoutPayload
          = Binary64.notANumber := by decide
      rw [hhead, Binary64.withoutPayload, if_pos (Binary64.isNaN_of_meaning h), ← hvalue]
      exact readItem_half inner frozen 0x7e 0 rest
  | infinite negative =>
      have hx : x = Binary64.infinity negative := Binary64.eq_infinity_of_meaning h
      cases negative with
      | false =>
          have hhead : encodeFloat x = [0xf9, 0x7c, 0x00] := by rw [encodeFloat, h]
          have hvalue : (Binary64.ofHalf (Bytes.toNatBE [0x7c, 0])).withoutPayload
              = (Binary64.infinity false).withoutPayload := by decide
          rw [hhead, hx, ← hvalue]
          exact readItem_half inner frozen 0x7c 0 rest
      | true =>
          have hhead : encodeFloat x = [0xf9, 0xfc, 0x00] := by rw [encodeFloat, h]
          have hvalue : (Binary64.ofHalf (Bytes.toNatBE [0xfc, 0])).withoutPayload
              = (Binary64.infinity true).withoutPayload := by decide
          rw [hhead, hx, ← hvalue]
          exact readItem_half inner frozen 0xfc 0 rest
  | finite negative m q =>
      -- any other number is written with all its bits
      have hhead : encodeFloat x = 0xfb :: Bytes.ofNatBE 8 x.bits.toNat := by rw [encodeFloat, h]
      have htake := takeBytes_append (Bytes.ofNatBE 8 x.bits.toNat) rest
      rw [Bytes.length_ofNatBE] at htake
      have hbits : Bytes.toNatBE (Bytes.ofNatBE 8 x.bits.toNat) = x.bits.toNat :=
        Bytes.toNatBE_ofNatBE x.bits.toNat_lt
      have hinfo : (0xfb : UInt8).toNat % 32 = 27 := by decide
      rw [hhead, List.cons_append, readItem_eq_readSimple _ _ (by decide), hinfo]
      simp [readSimple, htake, hbits, floatOf]

theorem toNatBE_minimalBE (n : Nat) : Bytes.toNatBE (Bytes.minimalBE n) = n := by
  refine Bytes.toNatBE_ofNatBE ?_
  by_cases hn : n = 0
  · rw [hn]
    exact Nat.pow_pos (by decide)
  · have hcount : Bytes.digitCount n = n.log2 / 8 + 1 := if_neg hn
    have hbase : 256 ^ (n.log2 / 8 + 1) = 2 ^ (8 * (n.log2 / 8 + 1)) := by
      rw [Nat.pow_mul]
    calc n < 2 ^ (n.log2 + 1) := Nat.lt_log2_self
      _ ≤ 2 ^ (8 * (n.log2 / 8 + 1)) := Nat.pow_le_pow_right (by decide) (by omega)
      _ = 256 ^ Bytes.digitCount n := by rw [hcount, hbase]

theorem readItem_int {n : Int} (h : -2 ^ 64 ≤ n ∧ n < 2 ^ 64) :
    Reads (readItem inner frozen) (encodeInt n) (.int n) := by
  obtain ⟨hlow, hhigh⟩ := h
  cases n with
  | ofNat n =>
      have hn : n < 0x10000000000000000 := Int.ofNat_lt.1 hhigh
      rw [encodeInt, if_pos hn]
      exact readItem_unsigned inner frozen hn
  | negSucc n =>
      have hn : n < 0x10000000000000000 := by omega
      rw [encodeInt, if_pos hn]
      exact readItem_negative inner frozen hn

theorem readItem_bigInt {item : Reader} {n : Int} (hn : (encodeInt n).length < 2 ^ 64)
    (h : ∀ frozen b, b.length < 2 ^ 64 → Reads (item frozen) (encodeBytes b) (.bytes b)) :
    Reads (readItem (some item) frozen) (encodeInt n) (.int n) := by
  cases n with
  | ofNat n =>
      rw [encodeInt] at hn ⊢
      by_cases hsmall : n < 0x10000000000000000
      · rw [if_pos hsmall]
        exact readItem_unsigned _ frozen hsmall
      · rw [if_neg hsmall] at hn ⊢
        have hlength : (Bytes.minimalBE n).length < 2 ^ 64 := by
          simp only [encodeBytes, List.length_append] at hn
          omega
        refine readItem_tag frozen (by decide) (h _ _ hlength) ?_
        show some (Value.int (Int.ofNat (Bytes.toNatBE (Bytes.minimalBE n)))) = _
        rw [toNatBE_minimalBE]
  | negSucc n =>
      rw [encodeInt] at hn ⊢
      by_cases hsmall : n < 0x10000000000000000
      · rw [if_pos hsmall]
        exact readItem_negative _ frozen hsmall
      · rw [if_neg hsmall] at hn ⊢
        have hlength : (Bytes.minimalBE n).length < 2 ^ 64 := by
          simp only [encodeBytes, List.length_append] at hn
          omega
        refine readItem_tag frozen (by decide) (h _ _ hlength) ?_
        show some (Value.int (Int.negSucc (Bytes.toNatBE (Bytes.minimalBE n)))) = _
        rw [toNatBE_minimalBE]

end Items

/-! ## Strings at the front -/

section Strings

variable {b b' rest rest' : Bytes} {s s' : String}

/-- **Two encoded strings at the front of the same bytes are one string.** -/
theorem encodeBytes_append_inj (hb : b.length < 2 ^ 64) (hb' : b'.length < 2 ^ 64)
    (h : encodeBytes b ++ rest = encodeBytes b' ++ rest') : b = b' ∧ rest = rest' := by
  obtain ⟨hvalue, hrest⟩ :=
    (readItem_bytes none false hb).append_inj (readItem_bytes none false hb') h
  exact ⟨Value.bytes.inj hvalue, hrest⟩

theorem encodeText_append_inj (hs : (Bytes.ofText s).length < 2 ^ 64)
    (hs' : (Bytes.ofText s').length < 2 ^ 64)
    (h : encodeText s ++ rest = encodeText s' ++ rest') : s = s' ∧ rest = rest' := by
  obtain ⟨hvalue, hrest⟩ :=
    (readItem_text none false hs).append_inj (readItem_text none false hs') h
  exact ⟨Value.text.inj hvalue, hrest⟩

end Strings

/-! ## Tags without a meaning -/

def hasMeaning (number : Nat) : Bool :=
  looseTags.contains number || number == 258 || number == 55799

theorem interpret?_of_not_hasMeaning {number : Nat} (h : hasMeaning number = false)
    (frozen : Bool) (content : Value) :
    interpret? frozen number content = some (.tag number content) := by
  unfold interpret?
  split <;> first | cases h | skip
  simp only [hasMeaning, Bool.or_eq_false_iff] at h
  rw [h.1.1]
  rfl

end Cbor

end DeviceTrust
