import DeviceTrust.Proofs.Cbor.RoundTrip
import DeviceTrust.Proofs.Cose.Key

/-!
# Scalar labels

A label that is null, a boolean, a number, a text or a byte string (`IsScalar`) is the same as an
integer exactly if any label that agrees with it is (`IsScalar.sameAsInt_congr`). The wire changes no
such label but the payload of a not-a-number, so that it is the same integer when it is read back.

Agreement takes a named number for the plain one (`Value.agrees_plainNumber`).
-/

set_option autoImplicit false

namespace DeviceTrust

/-! ## Floating-point numbers that are integers -/

namespace Binary64

variable {x y : Binary64}

theorem equalsInt_injective {m n : Int} (hm : x.equalsInt m = true) (hn : x.equalsInt n = true) :
    m = n := by
  unfold equalsInt at hm hn
  cases hx : x.meaning with
  | finite negative a q =>
      simp only [hx] at hm hn
      split at hm
      · rename_i hq
        rw [if_pos hq] at hn
        exact (beq_iff_eq.1 hm).symm.trans (beq_iff_eq.1 hn)
      · rename_i hq
        rw [if_neg hq] at hn
        simp only [Bool.and_eq_true, beq_iff_eq] at hm hn
        exact hm.2.symm.trans hn.2
  | notANumber | infinite _ =>
      simp only [hx] at hm
      cases hm

theorem equalsInt_of_isZero (h : x.isZero = true) (n : Int) : x.equalsInt n = (0 == n) := by
  simp only [isZero, Bool.and_eq_true, beq_iff_eq] at h
  have hmeaning : x.meaning = .finite x.negative 0 (-1074) := by
    simp [meaning, h.1, h.2]
  have hzero : signed x.negative 0 = 0 := by
    cases x.negative <;> rfl
  simp [equalsInt, hmeaning, hzero]

theorem equalsInt_congr (h : x.equals y = true) (n : Int) : x.equalsInt n = y.equalsInt n := by
  simp only [equals, Bool.and_eq_true, Bool.or_eq_true, beq_iff_eq] at h
  rcases h.2 with hbits | ⟨hx, hy⟩
  · obtain ⟨bits⟩ := x
    obtain ⟨bits'⟩ := y
    cases hbits
    rfl
  · rw [equalsInt_of_isZero hx, equalsInt_of_isZero hy]

/-- Leaving the payload of a not-a-number out makes it no integer. -/
theorem equalsInt_withoutPayload (x : Binary64) (n : Int) :
    x.withoutPayload.equalsInt n = x.equalsInt n := by
  unfold withoutPayload
  split
  · rename_i hnan
    have hmeaning : x.meaning = .notANumber := by
      simp only [isNaN, Bool.and_eq_true, beq_iff_eq, bne_iff_ne, ne_eq] at hnan
      simp [meaning, hnan.1, hnan.2]
    simp only [equalsInt, hmeaning]
    rfl
  · rfl

end Binary64

/-! ## Labels -/

namespace Value

variable {v w : Value}

@[simp] theorem sameAsInt_plainNumber (v : Value) (n : Int) :
    v.plainNumber.sameAsInt n = v.sameAsInt n := by
  cases v <;> rfl

/-- A label agrees with a named number as it does with the plain one. -/
theorem agrees_registered (v : Value) (r : Registered) :
    v.agrees (registered r) = v.sameAsInt r.number := by
  cases v <;>
    simp [agrees, sameOccurrence, same, sameAsInt, sameAsFloat, sameAsObject, wholeNumber?, int?,
      byteString?, Bool.beq_comm (a := r.number)]

theorem agrees_of_wholeNumber? {m : Int} (h : v.wholeNumber? = some m) (w : Value) :
    v.agrees w = w.sameAsInt m := by
  cases v with
  | bool b =>
      cases h
      simp [agrees, sameOccurrence, same]
  | int n | registered n =>
      cases h
      simp [agrees, sameOccurrence, same]
  | _ => cases h

/-- **Names of numbers have no part in agreement.** -/
@[simp] theorem agrees_plainNumber (v w : Value) :
    v.plainNumber.agrees w.plainNumber = v.agrees w := by
  have hleft : ∀ u : Value, v.plainNumber.agrees u = v.agrees u := by
    intro u
    cases v with
    | registered r => exact (int_agrees _ _).trans (agrees_of_wholeNumber? rfl u).symm
    | _ => rfl
  rw [hleft]
  cases w with
  | registered r => exact (agrees_int _ _).trans (agrees_registered _ _).symm
  | _ => rfl

end Value

/-- Labels that differ from each other still do without the names of numbers. -/
theorem Entries.Distinct.of_labels {es fs : Entries} (h : es.Distinct)
    (hl : fs.labels = es.labels.map Value.plainNumber) : fs.Distinct := by
  rw [Distinct, hl, List.pairwise_map]
  exact h.imp fun hdiffers => (Value.agrees_plainNumber _ _).trans hdiffers

/-- **A scalar label**: null, a boolean, a number, a text or a byte string. -/
inductive IsScalar : Value → Prop
  | null : IsScalar .null
  | bool (b : Bool) : IsScalar (.bool b)
  | int (n : Int) : IsScalar (.int n)
  | registered (r : Registered) : IsScalar (.registered r)
  | float (x : Binary64) : IsScalar (.float x)
  | text (s : String) : IsScalar (.text s)
  | bytes (b : Bytes) : IsScalar (.bytes b)

namespace IsScalar

variable {v w : Value}

theorem plainNumber (h : IsScalar v) : IsScalar v.plainNumber := by
  cases h with
  | registered r => exact .int r.number
  | null => exact .null
  | bool b => exact .bool b
  | int n => exact .int n
  | float x => exact .float x
  | text s => exact .text s
  | bytes b => exact .bytes b

theorem sameAsInt_injective (h : IsScalar v) {m n : Int} (hm : v.sameAsInt m = true)
    (hn : v.sameAsInt n = true) : m = n := by
  cases h with
  | float x => exact Binary64.equalsInt_injective hm hn
  | bool _ | int _ | registered _ =>
      exact Option.some.inj ((beq_iff_eq.1 hm).symm.trans (beq_iff_eq.1 hn))
  | null | text _ | bytes _ => cases hm

/-- **Labels that agree are the same integers.** -/
theorem sameAsInt_congr (hv : IsScalar v) (hw : IsScalar w) (h : v.agrees w = true) (n : Int) :
    v.sameAsInt n = w.sameAsInt n := by
  -- a label that is a whole number is this integer, and so is what agrees with it
  have hwhole : ∀ {u u' : Value} {m : Int}, IsScalar u' → u'.sameAsInt m = true →
      u.sameAsInt n = (some m == some n) → u.sameAsInt n = u'.sameAsInt n := by
    intro u u' m hu' hm hu
    rw [hu, Bool.eq_iff_iff, beq_iff_eq, Option.some_inj]
    exact ⟨fun hmn => hmn ▸ hm, fun hn => hu'.sameAsInt_injective hm hn⟩
  cases hv with
  | bool _ | int _ | registered _ =>
      rw [Value.agrees_of_wholeNumber? rfl] at h
      exact hwhole hw h rfl
  | float x =>
      cases hw with
      | float y =>
          simp only [Value.agrees, Value.sameOccurrence, Value.same, Value.sameAsFloat,
            Bool.or_eq_true] at h
          rcases h with hshared | hequal
          · simp only [Binary64.sharesPayload, Bool.and_eq_true, beq_iff_eq] at hshared
            obtain ⟨bits⟩ := x
            obtain ⟨bits'⟩ := y
            obtain rfl : bits = bits' := hshared.1.2
            rfl
          · exact Binary64.equalsInt_congr hequal n
      | bool _ | int _ | registered _ =>
          simp only [Value.agrees, Value.sameOccurrence, Value.same, Value.sameAsFloat,
            Bool.false_or] at h
          exact (hwhole (.float x) h rfl).symm
      | null | text _ | bytes _ =>
          simp [Value.agrees, Value.sameOccurrence, Value.same, Value.sameAsFloat,
            Value.wholeNumber?, Value.int?] at h
  | null | text _ | bytes _ =>
      cases hw with
      | null | text _ | bytes _ => rfl
      | bool _ | int _ | registered _ | float _ =>
          simp [Value.agrees, Value.sameOccurrence, Value.same, Value.byteString?] at h

end IsScalar

/-! ## On the wire -/

namespace Cbor

@[simp] theorem encode?_plainNumber (v : Value) : encode? v.plainNumber = encode? v := by
  cases v <;> rfl

theorem encodeEntries?_map_plainNumber (es : Entries) :
    encodeEntries? (es.map fun e => (e.1.plainNumber, e.2.plainNumber)) = encodeEntries? es := by
  induction es with
  | nil => rfl
  | cons e rest ih =>
      obtain ⟨label, content⟩ := e
      rw [List.map_cons, encodeEntries?, encodeEntries?, encode?_plainNumber, encode?_plainNumber,
        ih]

theorem encode?_map_plainNumber (flavour : MapFlavour) (es : Entries) :
    encode? (.map flavour (es.map fun e => (e.1.plainNumber, e.2.plainNumber)))
      = encode? (.map flavour es) := by
  rw [encode?, encode?, encodeEntries?_map_plainNumber, List.length_map]

end Cbor

theorem IsScalar.asRead {v : Value} (h : IsScalar v) (frozen : Bool) :
    IsScalar (Cbor.asRead v frozen) := by
  cases h with
  | null => exact .null
  | bool b => exact .bool b
  | int n => exact .int n
  | registered r => exact .int r.number
  | float x => exact .float x.withoutPayload
  | text s => exact .text s
  | bytes b => exact .bytes b

theorem IsScalar.sameAsInt_asRead {v : Value} (h : IsScalar v) (n : Int) (frozen : Bool) :
    (Cbor.asRead v frozen).sameAsInt n = v.sameAsInt n := by
  cases h with
  | float x => exact Binary64.equalsInt_withoutPayload x n
  | null | bool _ | int _ | registered _ | text _ | bytes _ => rfl

end DeviceTrust
