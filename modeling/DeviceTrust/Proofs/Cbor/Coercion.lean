import DeviceTrust.Cbor.Coercion
import DeviceTrust.Proofs.Outcome
import Mathlib.Data.List.Forall2

/-!
# Values that stand for bytes

Many a value stands for bytes (`Value.StandsFor`): not byte strings and arrays of small numbers only,
but sets of such numbers and maps with such labels too, and a whole number stands for that many zeros.
These are the values that are read as bytes, except for the numbers that are too great: too great to
count bytes (`Value.Uncountable`), or too great for the memory (`Value.Exhausting`). How much memory
there is makes a difference to numbers only.
-/

set_option autoImplicit false

namespace DeviceTrust

theorem mapM_eq_ok_iff {ε α β : Type} {f : α → Except ε β} {xs : List α} {ys : List β} :
    xs.mapM f = .ok ys ↔ List.Forall₂ (fun x y => f x = .ok y) xs ys := by
  induction xs generalizing ys with
  | nil =>
      rw [List.mapM_nil, List.forall₂_nil_left_iff]
      constructor
      · intro h
        cases h
        rfl
      · rintro rfl
        rfl
  | cons x xs ih =>
      rw [List.mapM_cons, bind_eq_ok]
      constructor
      · rintro ⟨y, hy, h⟩
        obtain ⟨ys', hys', h⟩ := bind_eq_ok.1 h
        cases h
        exact .cons hy (ih.1 hys')
      · rintro (_ | ⟨hy, hys⟩)
        exact ⟨_, hy, bind_eq_ok.2 ⟨_, ih.2 hys, rfl⟩⟩

namespace Value

variable {v : Value} {b : Bytes} {n : Int} {memory : Nat}

/-- **A value stands for bytes**: a byte string of either sort for its own, an array, a set or a map
for the numbers that are its elements or labels, and a whole number for that many zeros. -/
inductive StandsFor : Value → Bytes → Prop
  | bytes {v : Value} {b : Bytes} (h : v.byteString? = some b) : StandsFor v b
  | numbers {v : Value} {items : List Value} {b : Bytes} (h : v.collection? = some items)
      (hb : List.Forall₂ (fun x c => x.wholeNumber? = some (c.toNat : Int)) items b) : StandsFor v b
  | zeros {v : Value} {n : Nat} (h : v.wholeNumber? = some (n : Int)) :
      StandsFor v (Bytes.zeros n)

/-- **A value that asks for a number of zeros that cannot be counted**, a negative one included that is
too far below zero. -/
def Uncountable (v : Value) : Prop :=
  ∃ n, v.wholeNumber? = some n ∧ (n < -greatestCount - 1 ∨ greatestSize < n)

/-- **A value that asks for more zeros than there is memory for.** -/
def Exhausting (v : Value) (memory : Nat) : Prop :=
  ∃ n, v.wholeNumber? = some n ∧ (memory : Int) ≤ n ∧ n ≤ greatestSize

/-- **How a value fails to be bytes**: it has the wrong type or holds a wrong number, or it is itself
too great a number. -/
inductive BytesFault (v : Value) (memory : Nat) : Fault → Prop
  | sort {f : Fault} (h : f.faultClass = .type ∨ f.faultClass = .value) : BytesFault v memory f
  | uncountable (h : v.Uncountable) : BytesFault v memory (.plain .overflow)
  | exhausting (h : v.Exhausting memory) : BytesFault v memory (.plain .memory)

/-! ## The three sorts of values that can stand for bytes -/

theorem toBytes_of_collection? {items : List Value} (h : v.collection? = some items) :
    v.toBytes memory = (items.mapM toByte).map .given := by
  cases v with
  | list _ | tuple _ | set _ _ | map _ _ | coseKey _ =>
      cases h
      rfl
  | _ => cases h

theorem toBytes_of_wholeNumber? (h : v.wholeNumber? = some n) :
    v.toBytes memory = if n < -greatestCount - 1 || greatestSize < n then .error (.plain .overflow)
      else if n < 0 then .error (.plain .value)
      else if (memory : Int) ≤ n then .error (.plain .memory)
      else .ok (.zeros n.toNat) := by
  cases v with
  | bool _ | int _ | registered _ =>
      cases h
      rfl
  | _ => cases h

/-- **Every value is of one of these sorts**, or has the wrong type. -/
theorem bytes_or_collection_or_number (v : Value) (memory : Nat) :
    (∃ b, v.byteString? = some b) ∨ (∃ items, v.collection? = some items) ∨
      (∃ n, v.wholeNumber? = some n) ∨ v.toBytes memory = .error (.plain .type) := by
  cases v with
  | bytes b | buffer b => exact .inl ⟨b, rfl⟩
  | list items | tuple items | set _ items => exact .inr (.inl ⟨items, rfl⟩)
  | map _ es | coseKey es => exact .inr (.inl ⟨_, rfl⟩)
  | bool _ | int _ | registered _ => exact .inr (.inr (.inl ⟨_, rfl⟩))
  | _ => exact .inr (.inr (.inr rfl))

theorem wholeNumber?_of_byteString? (h : v.byteString? = some b) : v.wholeNumber? = none := by
  cases v with
  | bytes _ | buffer _ => rfl
  | _ => cases h

theorem wholeNumber?_of_collection? {items : List Value} (h : v.collection? = some items) :
    v.wholeNumber? = none := by
  cases v with
  | list _ | tuple _ | set _ _ | map _ _ | coseKey _ => rfl
  | _ => cases h

theorem wholeNumber?_of_length? {k : Nat} (h : v.length? = some k) : v.wholeNumber? = none := by
  cases v with
  | text _ | bytes _ | buffer _ | list _ | tuple _ | set _ _ | map _ _ | coseKey _ => rfl
  | _ => cases h

theorem not_exhausting_of_wholeNumber? (h : v.wholeNumber? = none) : ¬ v.Exhausting memory := by
  rintro ⟨n, hn, -⟩
  cases h.symm.trans hn

theorem not_uncountable_of_wholeNumber? (h : v.wholeNumber? = none) : ¬ v.Uncountable := by
  rintro ⟨n, hn, -⟩
  cases h.symm.trans hn

theorem toByte_eq_ok_iff {x : Value} {c : UInt8} :
    x.toByte = .ok c ↔ x.wholeNumber? = some (c.toNat : Int) := by
  unfold toByte
  cases hx : x.wholeNumber? with
  | none => simp
  | some n =>
      have hc := c.toNat_lt
      by_cases hn : 0 ≤ n ∧ n < 256
      · have hbyte : (UInt8.ofNat n.toNat).toNat = n.toNat := by
          rw [UInt8.toNat_ofNat']
          omega
        simp only [hn, decide_true, Bool.and_self, if_true, Except.ok.injEq, Option.some.injEq]
        rw [← UInt8.toNat_inj, hbyte]
        omega
      · simp only [Bool.and_eq_true, decide_eq_true_eq, hn, if_false, Option.some.injEq]
        constructor
        · intro h
          cases h
        · intro h
          omega

theorem toByte_failsOnly (x : Value) :
    FailsOnly (fun f => f.faultClass = .type ∨ f.faultClass = .value) x.toByte := by
  unfold toByte
  split
  · exact .error (.inl rfl)
  · split
    · exact .ok _
    · exact .error (.inr rfl)

/-! ## Reading -/

/-- Zeros are given for a number that there are sizes and memory for. -/
theorem zeros_of_toBytes {source : ByteSource} (hn : v.wholeNumber? = some n)
    (h : v.toBytes memory = .ok source) :
    0 ≤ n ∧ n < (memory : Int) ∧ n ≤ greatestSize ∧ source = .zeros n.toNat := by
  rw [toBytes_of_wholeNumber? hn] at h
  split at h
  · cases h
  rename_i hfits
  simp only [Bool.or_eq_true, decide_eq_true_eq, not_or, Int.not_lt] at hfits
  split at h
  · cases h
  rename_i hpositive
  split at h
  · cases h
  rename_i hmemory
  cases h
  exact ⟨Int.not_lt.1 hpositive, Int.not_le.1 hmemory, hfits.2, rfl⟩

/-- **What is read as bytes stands for them**, and is not too great a number. -/
theorem standsFor_of_toBytes {source : ByteSource} (h : v.toBytes memory = .ok source) :
    v.StandsFor source.bytes ∧ ¬ v.Uncountable ∧ ¬ v.Exhausting memory := by
  -- bytes themselves, the numbers of a collection, a count of zeros, or none of these
  rcases v.bytes_or_collection_or_number memory with ⟨b, hb⟩ | ⟨items, hc⟩ | ⟨n, hn⟩ | htype
  · cases h.symm.trans (toBytes_of_byteString? hb memory)
    have hnumber := wholeNumber?_of_byteString? hb
    exact ⟨.bytes hb, not_uncountable_of_wholeNumber? hnumber,
      not_exhausting_of_wholeNumber? hnumber⟩
  · rw [toBytes_of_collection? hc] at h
    have hnumber := wholeNumber?_of_collection? hc
    cases hm : items.mapM toByte with
    | error f =>
        rw [hm] at h
        cases h
    | ok b =>
        rw [hm] at h
        cases h
        exact ⟨.numbers hc ((mapM_eq_ok_iff.1 hm).imp fun _ _ => toByte_eq_ok_iff.1),
          not_uncountable_of_wholeNumber? hnumber, not_exhausting_of_wholeNumber? hnumber⟩
  · obtain ⟨hpositive, hmemory, hsize, rfl⟩ := zeros_of_toBytes hn h
    refine ⟨.zeros ?_, ?_, ?_⟩
    · rw [hn, Int.toNat_of_nonneg hpositive]
    · rintro ⟨m, hm, hgreat⟩
      cases hn.symm.trans hm
      unfold greatestCount at hgreat
      omega
    · rintro ⟨m, hm, hmuch, -⟩
      cases hn.symm.trans hm
      omega
  · cases h.symm.trans htype

/-- **What stands for bytes is read as them**, unless it is too great a number. -/
theorem exists_toBytes_of_standsFor (h : v.StandsFor b) (hc : ¬ v.Uncountable)
    (he : ¬ v.Exhausting memory) : ∃ source, v.toBytes memory = .ok source ∧ source.bytes = b := by
  cases h with
  | bytes h => exact ⟨_, toBytes_of_byteString? h memory, rfl⟩
  | numbers h hb =>
      refine ⟨.given b, ?_, rfl⟩
      rw [toBytes_of_collection? h, mapM_eq_ok_iff.2 (hb.imp fun _ _ => toByte_eq_ok_iff.2)]
      rfl
  | @zeros n h =>
      have hsize : ¬ ((n : Int) < -greatestCount - 1 ∨ greatestSize < (n : Int)) :=
        fun hgreat => hc ⟨n, h, hgreat⟩
      have hmemory : ¬ (memory : Int) ≤ n := fun hmuch =>
        he ⟨n, h, hmuch, Int.not_lt.1 fun hgreat => hsize (.inr hgreat)⟩
      refine ⟨.zeros n, ?_, rfl⟩
      rw [toBytes_of_wholeNumber? h, if_neg (by simpa using hsize), if_neg (by omega),
        if_neg hmemory]
      rfl

/-- **When a value is read as bytes, and as which.** -/
theorem toBytes_eq_ok_iff :
    (∃ source, v.toBytes memory = .ok source ∧ source.bytes = b) ↔
      v.StandsFor b ∧ ¬ v.Uncountable ∧ ¬ v.Exhausting memory := by
  constructor
  · rintro ⟨source, h, rfl⟩
    exact standsFor_of_toBytes h
  · rintro ⟨h, hc, he⟩
    exact exists_toBytes_of_standsFor h hc he

/-- For what has elements, memory makes no difference. -/
theorem toBytes_eq_ok_iff_of_length? {k : Nat} (h : v.length? = some k) (memory : Nat) :
    (∃ source, v.toBytes memory = .ok source ∧ source.bytes = b) ↔ v.StandsFor b := by
  have hnumber := wholeNumber?_of_length? h
  rw [toBytes_eq_ok_iff]
  exact ⟨fun h => h.1, fun h => ⟨h, not_uncountable_of_wholeNumber? hnumber,
    not_exhausting_of_wholeNumber? hnumber⟩⟩

theorem standsFor_iff_of_byteString? {c : Bytes} (h : v.byteString? = some b) :
    v.StandsFor c ↔ c = b := by
  constructor
  · intro hc
    cases hc with
    | bytes hc => exact Option.some.inj (hc.symm.trans h)
    | numbers hc _ =>
        cases v with
        | bytes _ | buffer _ => cases hc
        | _ => cases h
    | zeros hc => cases (wholeNumber?_of_byteString? h).symm.trans hc
  · rintro rfl
    exact .bytes h

theorem StandsFor.length_eq (h : v.StandsFor b) {k : Nat} (hk : v.length? = some k) :
    b.length = k := by
  cases h with
  | bytes h =>
      cases v with
      | bytes _ | buffer _ =>
          cases h
          exact Option.some.inj hk
      | _ => cases h
  | numbers h hb =>
      rw [← hb.length_eq]
      cases v with
      | list _ | tuple _ | set _ _ =>
          cases h
          exact Option.some.inj hk
      | map _ _ | coseKey _ =>
          cases h
          rw [List.length_map]
          exact Option.some.inj hk
      | _ => cases h
  | zeros h => cases (wholeNumber?_of_length? hk).symm.trans h

/-- As many bytes as can be asked for can be counted. -/
theorem StandsFor.not_uncountable (h : v.StandsFor b) (hlength : (b.length : Int) ≤ greatestSize) :
    ¬ v.Uncountable := by
  rintro ⟨n, hn, hsize⟩
  cases h with
  | bytes h => cases (wholeNumber?_of_byteString? h).symm.trans hn
  | numbers h _ => cases (wholeNumber?_of_collection? h).symm.trans hn
  | @zeros m h =>
      cases h.symm.trans hn
      simp only [Bytes.zeros, List.length_replicate] at hlength
      unfold greatestCount at hsize
      omega

theorem toBytes_of_uncountable (h : v.Uncountable) :
    v.toBytes memory = .error (.plain .overflow) := by
  obtain ⟨n, hn, hsize⟩ := h
  rw [toBytes_of_wholeNumber? hn, if_pos (by simpa using hsize)]

theorem toBytes_of_exhausting (h : v.Exhausting memory) :
    v.toBytes memory = .error (.plain .memory) := by
  obtain ⟨n, hn, hmuch, hsize⟩ := h
  have hlow : -greatestCount - 1 ≤ n := by
    unfold greatestCount
    omega
  have hfits : ¬ (n < -greatestCount - 1 || greatestSize < n) = true := by
    rw [Bool.or_eq_true, decide_eq_true_eq, decide_eq_true_eq]
    omega
  rw [toBytes_of_wholeNumber? hn, if_neg hfits, if_neg (by omega), if_pos hmuch]

/-- **The faults of reading a value as bytes.** -/
theorem toBytes_failsOnly (v : Value) (memory : Nat) :
    FailsOnly (BytesFault v memory) (v.toBytes memory) := by
  rcases v.bytes_or_collection_or_number memory with ⟨b, hb⟩ | ⟨items, hitems⟩ | ⟨n, hn⟩ | htype
  · rw [toBytes_of_byteString? hb]
    exact .ok _
  · rw [toBytes_of_collection? hitems]
    exact ((FailsOnly.mapM toByte_failsOnly items).map _).mono fun _ hf => .sort hf
  · rw [toBytes_of_wholeNumber? hn]
    split
    · rename_i hsize
      exact .error (.uncountable ⟨n, hn, by simpa using hsize⟩)
    · rename_i hfits
      simp only [Bool.or_eq_true, decide_eq_true_eq, not_or, Int.not_lt] at hfits
      split
      · exact .error (.sort (.inr rfl))
      · split
        · rename_i hmuch
          exact .error (.exhausting ⟨n, hn, hmuch, hfits.2⟩)
        · exact .ok _
  · rw [htype]
    exact .error (.sort (.inl rfl))

end Value

end DeviceTrust
