import DeviceTrust.Proofs.Cbor.Ordinary
import DeviceTrust.Proofs.Cose.Published
import DeviceTrust.Proofs.Cose.ReadBack

/-!
# Keys of ordinary values

A key is made of ordinary values if its labels are integers, texts and byte strings, no two of them
the same, and ordinary values stand under them (`CoseKey.Ordinary`). What comes back of such a key
from the wire is the same key (`CoseKey.Ordinary.same_asRead`), and has the same encoding
(`CoseKey.Ordinary.encode_asRead`).

A map of ordinary values makes such a key (`OrdinaryParameters.ordinary_new`), label by label in the
order of the map (`CoseKey.new_of_distinct`). So a key survives the wire. And of all byte strings, those
that encode a map are taken for a key, and nothing else (`CoseKey.exists_decode_iff`).
-/

set_option autoImplicit false

namespace DeviceTrust

theorem IsLabel.ordinary {v : Value} (h : IsLabel v) : v.Ordinary := by
  cases h with
  | int n => exact .int n
  | text s => exact .text s
  | bytes b => exact .bytes b

/-- **Parameters that a key can be made of**: no label twice, every label an integer, a text or a
byte string, ordinary values under them, and nothing nested beyond the limit. -/
structure OrdinaryParameters (es : Entries) : Prop where
  distinct : es.Distinct
  labelled : es.Labelled
  contents : ∀ e ∈ es, e.2.Ordinary
  nested : Cbor.Plain Cbor.depthLimit (.map .plain es)

namespace CoseKey

/-! ## What comes back -/

/-- **A key of ordinary values.** -/
structure Ordinary (k : CoseKey) : Prop where
  normal : k.Normal
  labels : ∀ e ∈ k.parameters, IsLabel e.1
  contents : ∀ e ∈ k.parameters, e.2.Ordinary

variable {k : CoseKey} {b : Bytes}

theorem Ordinary.entries (h : k.Ordinary) : k.parameters.Ordinary :=
  ⟨h.normal.distinct, fun e he => (h.labels e he).isScalar, fun e he => (h.labels e he).ordinary,
    h.contents⟩

theorem Ordinary.asRead_map (h : k.Ordinary) :
    Cbor.asRead (.map .plain k.parameters) false = .map .plain k.asRead.parameters := by
  rw [Cbor.asRead_map_of_ordinary h.entries]
  refine congrArg (Value.map .plain) (List.map_congr_left fun e he => Prod.ext ?_ rfl)
  exact (h.normal.plain e he).1

theorem same_iff_agrees {k k' : CoseKey} :
    k.same k' = true ↔
      (Value.map .plain k.parameters).agrees (.map .plain k'.parameters) = true := by
  rw [same, toValue, toValue, Value.agrees, Value.same, Value.same]
  rfl

/-- **What comes back of a key is the same key**, in both directions. -/
theorem Ordinary.same_asRead (h : k.Ordinary) :
    k.asRead.same k = true ∧ k.same k.asRead = true := by
  rw [same_iff_agrees, same_iff_agrees, ← h.asRead_map]
  exact Cbor.agrees_asRead (h.entries.map .plain)

/-- **What comes back of a key has the same encoding.** -/
theorem Ordinary.encode_asRead (h : k.Ordinary) (hb : k.encode = .ok b) :
    k.asRead.encode = .ok b := by
  rw [encode_eq_ok_iff] at hb ⊢
  rw [← hb, ← h.asRead_map]
  exact Cbor.encode?_congr (Cbor.asRead_ordinary (h.entries.map .plain)).2

theorem labels_asRead (k : CoseKey) : k.asRead.parameters.labels = k.parameters.labels := by
  rw [asRead, Entries.labels, Entries.labels, List.map_map]
  rfl

theorem kinds_asRead (k : CoseKey) :
    k.asRead.parameters.map (·.2.kindOf) = k.parameters.map (·.2.kindOf) := by
  rw [asRead, List.map_map]
  exact List.map_congr_left fun e _ => Cbor.kindOf_asRead e.2 false

/-! ## Making a key -/

/-- **A key is made of a map entry by entry**, without the names of numbers. -/
theorem new_of_distinct {es : Entries} (h : es.Distinct) :
    new es = ⟨es.map fun e => (e.1.plainNumber, e.2.plainNumber)⟩ := by
  have hplain : (Entries.labels (es.map fun e => (e.1.plainNumber, e.2.plainNumber)))
      = es.labels.map Value.plainNumber := by
    rw [Entries.labels, Entries.labels, List.map_map, List.map_map]
    rfl
  rw [new, Entries.ofList_eq_self (h.of_labels hplain)]

theorem labels_new {es : Entries} (h : es.Distinct) :
    (new es).parameters.labels = es.labels.map Value.plainNumber := by
  rw [new_of_distinct h, Entries.labels, Entries.labels, List.map_map, List.map_map]
  rfl

theorem kinds_new {es : Entries} (h : es.Distinct) :
    (new es).parameters.map (·.2.kindOf) = es.map (·.2.kindOf) := by
  rw [new_of_distinct h, List.map_map]
  exact List.map_congr_left fun e _ => Value.kindOf_plainNumber e.2

end CoseKey

namespace OrdinaryParameters

variable {es : Entries}

/-- **Ordinary parameters make a key of ordinary values.** -/
theorem ordinary_new (h : OrdinaryParameters es) : (CoseKey.new es).Ordinary := by
  refine ⟨CoseKey.normal_new es, ?_, ?_⟩
  · rw [CoseKey.new_of_distinct h.distinct]
    exact List.forall_mem_map.2 h.labelled
  · rw [CoseKey.new_of_distinct h.distinct]
    exact List.forall_mem_map.2 fun e he => (h.contents e he).plainNumber

theorem portable_new (h : OrdinaryParameters es) :
    ∃ depth, depth < Cbor.depthLimit ∧ (CoseKey.new es).Portable depth := by
  refine ⟨Cbor.depthLimit - 1, by decide, CoseKey.portable_new h.labelled fun e he => ?_⟩
  cases h.nested with
  | noEntries => cases he
  | map _ _ hv => exact hv e he

end OrdinaryParameters

namespace CoseKey

theorem exists_decode_iff {v : Value} {b : Bytes} (hv : v.byteString? = some b) :
    (∃ k, decode v = .ok k) ↔ ∃ es, Cbor.EncodesMap b es := by
  constructor
  · rintro ⟨k, hk⟩
    cases decode_eq_ok_iff.1 hk with
    | encoded hv' hb =>
        cases hv.symm.trans hv'
        exact ⟨_, hb⟩
    | key es | map flavour es => cases hv
  · rintro ⟨es, hb⟩
    exact ⟨new es, decode_eq_ok_iff.2 (.encoded hv hb)⟩

/-- **A key survives the wire.** It has an encoding, and from this comes back the same key, with the
labels of the map it was made of in the order of the map and values of the same kinds, and with the
same encoding; the map itself gives the key as well. Of all byte strings, those that encode a map
give a key; every other one is refused as input that cannot be read. The encoding is taken to be
shorter than `2 ^ 64`: a greater length cannot be written in front of a string or an array. -/
theorem survives_wire {es : Entries} (h : OrdinaryParameters es)
    (hlength : ∀ b, (new es).encode = .ok b → b.length < 2 ^ 64) :
    (∃ b k, (new es).encode = .ok b ∧ (∀ v, v.byteString? = some b → decode v = .ok k) ∧
        (k.same (new es) = true ∧ (new es).same k = true) ∧
        (k.parameters.labels = (new es).parameters.labels ∧
          k.parameters.labels = es.labels.map Value.plainNumber) ∧
        (k.parameters.map (·.2.kindOf) = (new es).parameters.map (·.2.kindOf) ∧
          k.parameters.map (·.2.kindOf) = es.map (·.2.kindOf)) ∧
        k.encode = .ok b ∧ ∀ flavour, decode (.map flavour es) = .ok (new es)) ∧
      ∀ v b, v.byteString? = some b →
        ((∃ k, decode v = .ok k) ↔ ∃ fs, Cbor.EncodesMap b fs) ∧
          ∀ e, decode v = .error e →
            e.family? = some .structural ∧ e.reason? = some .deserialization := by
  refine ⟨?_, fun v b hv => ⟨exists_decode_iff hv, fun e he => ?_⟩⟩
  · have hordinary := h.ordinary_new
    obtain ⟨depth, hdepth, hportable⟩ := h.portable_new
    obtain ⟨b, hb⟩ := hportable.exists_encode
    have hdecode := hportable.decode_encode hdepth hb (hlength b hb)
    refine ⟨b, (new es).asRead, hb, fun v hv => ?_, hordinary.same_asRead, ⟨labels_asRead _, ?_⟩,
      ⟨kinds_asRead _, ?_⟩, hordinary.encode_asRead hb, fun flavour => rfl⟩
    · -- either sort of byte string is read as its bytes
      rw [← hdecode, decode, decode, WireItem.key.read_of_byteString? hv,
        WireItem.key.read_of_byteString? rfl]
    · exact (labels_asRead _).trans (labels_new h.distinct)
    · exact (kinds_asRead _).trans (kinds_new h.distinct)
  · have hreason : e.reason? = some .deserialization := decode_failsOnly v e he
    refine ⟨?_, hreason⟩
    rw [Error.family?, hreason]
    rfl

/-- A named label, an integer beyond 64 bits in an array, a map in it with a boolean as its label, and
a floating-point number under a text. -/
def nestedParameters : Entries :=
  [(.registered (.label .kty), .int 1),
    (.int (-70001), .list [.int (2 ^ 64), .map .plain [(.bool true, .null)]]),
    (.text "scale", .float ⟨0x3ff8000000000000⟩)]

theorem distinct_nested : nestedParameters.Distinct := by
  simp [nestedParameters, Entries.Distinct, Entries.labels, Value.agrees, Value.same,
    Value.sameOccurrence, Value.sameAsInt, Value.wholeNumber?, Value.int?, Registered.number,
    KeyLabel.number]

theorem ordinaryParameters_nested : OrdinaryParameters nestedParameters := by
  have hmap : (Value.map .plain [(.bool true, .null)]).Ordinary := by
    refine .map .plain (List.pairwise_singleton _ _) ?_ ?_ ?_ <;> rw [List.forall_mem_singleton]
    · exact .bool true
    · exact .bool true
    · exact .null
  have hlist : (Value.list [.int (2 ^ 64), .map .plain [(.bool true, .null)]]).Ordinary := by
    refine .list ?_
    rw [List.forall_mem_cons, List.forall_mem_singleton]
    exact ⟨.int _, hmap⟩
  have hplain : Cbor.Plain 3 (.list [.int (2 ^ 64), .map .plain [(.bool true, .null)]]) := by
    refine .list ?_
    rw [List.forall_mem_cons, List.forall_mem_singleton]
    refine ⟨.bigInt _, .map .plain ?_ ?_⟩ <;> rw [List.forall_mem_singleton]
    · exact .bool true
    · exact .null
  have hnested : Cbor.Plain 4 (.map .plain nestedParameters) := by
    refine .map .plain ?_ ?_ <;>
      rw [nestedParameters, List.forall_mem_cons, List.forall_mem_cons, List.forall_mem_singleton]
    · exact ⟨.registered _, .bigInt _, .text _⟩
    · exact ⟨.bigInt _, hplain, .float _⟩
  refine ⟨distinct_nested, ?_, ?_, hnested.mono (by decide)⟩
  · rw [Entries.Labelled, nestedParameters, List.forall_mem_cons, List.forall_mem_cons,
      List.forall_mem_singleton]
    exact ⟨.int 1, .int _, .text _⟩
  · rw [nestedParameters, List.forall_mem_cons, List.forall_mem_cons, List.forall_mem_singleton]
    exact ⟨.int 1, hlist, .float rfl⟩

/-- The key of these parameters survives the wire. -/
theorem survives_wire_nested :
    ∃ b k, (new nestedParameters).encode = .ok b ∧ decode (.bytes b) = .ok k ∧
      k.same (new nestedParameters) = true ∧ k.encode = .ok b := by
  have hlength : ∀ b, (new nestedParameters).encode = .ok b → b.length < 2 ^ 64 := by
    intro b hb
    rw [new_of_distinct distinct_nested] at hb
    cases hb
    decide +kernel
  obtain ⟨b, k, hb, hk, hsame, -, -, hencode, -⟩ :=
    (survives_wire ordinaryParameters_nested hlength).1
  exact ⟨b, k, hb, hk (.bytes b) rfl, hsame.1, hencode⟩

end CoseKey

end DeviceTrust
