import DeviceTrust.Cose.Key

/-!
# What has no encoding

A value has no encoding if something in it, at whatever depth, has no place in CBOR: an object of
another sort, such as a key or a message, or a point in time without a zone (`Value.Unwritable`).
Everything else is written (`Cbor.encode?_eq_none_iff`). For a structured key this decides whether it
is encoded or fails, and there is one way to fail (`CoseKey.encode_eq_error_iff`).

One step of the encoder asks for the values that stand directly in a value
(`Cbor.encode?_eq_none_step`); what holds at any depth follows by induction on the nesting.
-/

set_option autoImplicit false

namespace DeviceTrust

namespace Value

/-! ## Parts of a value -/

/-- The values that stand directly in a value: the items of an array or a set, the labels and
contents of a map, the content of a tag. -/
def nested : Value → List Value
  | list items | tuple items | set _ items => items
  | map _ es | coseKey es => es.flatMap fun e => [e.1, e.2]
  | tag _ content => [content]
  | _ => []

/-- **A value has a part**: the value itself, and what stands in it at any depth. -/
inductive HasPart : Value → Value → Prop
  | self (v : Value) : HasPart v v
  | nested {v x w : Value} (hx : x ∈ v.nested) (h : HasPart x w) : HasPart v w

theorem mem_nested_entries {es : Entries} {x : Value} :
    x ∈ es.flatMap (fun e => [e.1, e.2]) ↔ ∃ e ∈ es, x = e.1 ∨ x = e.2 := by
  simp

theorem sizeOf_lt_of_mem_nested {v x : Value} (h : x ∈ v.nested) : sizeOf x < sizeOf v := by
  cases v with
  | list items | tuple items | set _ items =>
      have hlt : sizeOf x < sizeOf items := List.sizeOf_lt_of_mem h
      simp only [list.sizeOf_spec, tuple.sizeOf_spec, set.sizeOf_spec]
      omega
  | map _ es | coseKey es =>
      obtain ⟨e, he, hx⟩ := mem_nested_entries.1 h
      have hlt := List.sizeOf_lt_of_mem he
      have hpart : sizeOf x < sizeOf e := by
        obtain ⟨label, content⟩ := e
        rw [Prod.mk.sizeOf_spec]
        rcases hx with rfl | rfl <;> omega
      simp only [map.sizeOf_spec, coseKey.sizeOf_spec]
      omega
  | tag number content =>
      rw [List.mem_singleton.1 h, tag.sizeOf_spec]
      omega
  | _ => cases h

/-- **A value that CBOR has no item for.** What such a value consists of is not looked at. -/
inductive Unwritable : Value → Prop
  | kind (k : Kind) : Unwritable (.kind k)
  | message (protectedHeader unprotectedHeader payload signature : Value) :
      Unwritable (.message protectedHeader unprotectedHeader payload signature)
  | publicKey (k : PublicKey) : Unwritable (.publicKey k)
  | privateKey (k : PrivateKey) (mark : Mark) : Unwritable (.privateKey k mark)
  | keyPair (k : KeyPair) (mark : Mark) : Unwritable (.keyPair k mark)
  | object {o : TaggedObject} (h : Cbor.encodeObject? o = none) : Unwritable (.object o)
  | unknown (mark : Mark) : Unwritable (.unknown mark)

end Value

/-- Entries in which something cannot be written, in a label or in a content. -/
def Entries.HoldUnwritable (es : Entries) : Prop :=
  ∃ e ∈ es, ∃ w, (e.1.HasPart w ∨ e.2.HasPart w) ∧ w.Unwritable

namespace Cbor

open Value

/-! ## One step of the encoder -/

theorem encodeItems?_eq_none_iff {items : List Value} :
    encodeItems? items = none ↔ ∃ x ∈ items, encode? x = none := by
  induction items with
  | nil => simp [encodeItems?]
  | cons x rest ih =>
      simp only [List.mem_cons, exists_eq_or_imp, ← ih]
      rw [encodeItems?]
      cases encode? x with
      | none => simp
      | some b => cases encodeItems? rest <;> simp

theorem encodeEntries?_eq_none_iff {es : Entries} :
    encodeEntries? es = none ↔ ∃ e ∈ es, encode? e.1 = none ∨ encode? e.2 = none := by
  induction es with
  | nil => simp [encodeEntries?]
  | cons e rest ih =>
      obtain ⟨label, content⟩ := e
      simp only [List.mem_cons, exists_eq_or_imp, ← ih]
      rw [encodeEntries?]
      cases encode? label with
      | none => simp
      | some b =>
          cases encode? content with
          | none => simp
          | some c => cases encodeEntries? rest <;> simp

/-- **One step of the encoder**: a value has no encoding if CBOR has no item for it or something that
stands directly in it has none. -/
theorem encode?_eq_none_step {v : Value} :
    encode? v = none ↔ v.Unwritable ∨ ∃ x ∈ v.nested, encode? x = none := by
  constructor
  · intro h
    cases v with
    | kind k => exact .inl (.kind k)
    | message p u q s => exact .inl (.message p u q s)
    | publicKey k => exact .inl (.publicKey k)
    | privateKey k mark => exact .inl (.privateKey k mark)
    | keyPair k mark => exact .inl (.keyPair k mark)
    | unknown mark => exact .inl (.unknown mark)
    | object o => exact .inl (.object h)
    | list items | tuple items | set _ items =>
        rw [encode?, Option.map_eq_none_iff] at h
        exact .inr (encodeItems?_eq_none_iff.1 h)
    | map _ es | coseKey es =>
        rw [encode?, Option.map_eq_none_iff] at h
        obtain ⟨e, he, h | h⟩ := encodeEntries?_eq_none_iff.1 h
        · exact .inr ⟨e.1, mem_nested_entries.2 ⟨e, he, .inl rfl⟩, h⟩
        · exact .inr ⟨e.2, mem_nested_entries.2 ⟨e, he, .inr rfl⟩, h⟩
    | tag number content =>
        rw [encode?, Option.map_eq_none_iff] at h
        exact .inr ⟨content, List.mem_singleton_self _, h⟩
    | _ => cases h
  · rintro (h | ⟨x, hx, h⟩)
    · cases h with
      | object h => exact h
      | _ => rfl
    · -- only what is made of other values has something in it
      cases v with
      | list items | tuple items | set _ items =>
          rw [encode?, Option.map_eq_none_iff]
          exact encodeItems?_eq_none_iff.2 ⟨x, hx, h⟩
      | map _ es | coseKey es =>
          rw [encode?, Option.map_eq_none_iff]
          obtain ⟨e, he, rfl | rfl⟩ := mem_nested_entries.1 hx
          · exact encodeEntries?_eq_none_iff.2 ⟨e, he, .inl h⟩
          · exact encodeEntries?_eq_none_iff.2 ⟨e, he, .inr h⟩
      | tag number content =>
          rw [encode?, Option.map_eq_none_iff, ← List.mem_singleton.1 hx]
          exact h
      | _ => cases hx

/-! ## Any depth -/

theorem exists_unwritable_of_encode?_eq_none (v : Value) (h : encode? v = none) :
    ∃ w, v.HasPart w ∧ w.Unwritable := by
  -- by induction on the size: what stands in a value is smaller, but stands in a list
  rcases encode?_eq_none_step.1 h with hv | ⟨x, hx, hnone⟩
  · exact ⟨v, .self v, hv⟩
  · obtain ⟨w, hw, hunwritable⟩ := exists_unwritable_of_encode?_eq_none x hnone
    exact ⟨w, .nested hx hw, hunwritable⟩
termination_by sizeOf v
decreasing_by exact sizeOf_lt_of_mem_nested hx

theorem encode?_eq_none_of_hasPart {v w : Value} (h : v.HasPart w) (hw : w.Unwritable) :
    encode? v = none := by
  induction h with
  | self v => exact encode?_eq_none_step.2 (.inl hw)
  | nested hx _ ih => exact encode?_eq_none_step.2 (.inr ⟨_, hx, ih hw⟩)

/-- **What has no encoding**: a value that has a part, at whatever depth, that CBOR has no item
for. -/
theorem encode?_eq_none_iff {v : Value} :
    encode? v = none ↔ ∃ w, v.HasPart w ∧ w.Unwritable := by
  constructor
  · exact exists_unwritable_of_encode?_eq_none v
  · rintro ⟨w, h, hw⟩
    exact encode?_eq_none_of_hasPart h hw

end Cbor

namespace CoseKey

variable {k : CoseKey}

/-- **A structured key is encoded or fails in one way**: it has an encoding if every part of it can be
written. -/
theorem encode_eq_error_iff {e : Error} :
    k.encode = .error e ↔ k.parameters.HoldUnwritable ∧ e = .fault (.plain .unencodable) := by
  have hnone : Cbor.encode? (.map .plain k.parameters) = none ↔ k.parameters.HoldUnwritable := by
    rw [Cbor.encode?, Option.map_eq_none_iff, Cbor.encodeEntries?_eq_none_iff]
    refine exists_congr fun x => and_congr_right fun _ => ?_
    rw [Cbor.encode?_eq_none_iff, Cbor.encode?_eq_none_iff, ← exists_or]
    exact exists_congr fun w => or_and_right.symm
  rw [← hnone]
  unfold encode
  split
  · rename_i hsome
    simp [hsome]
  · rename_i hfail
    rw [hfail]
    constructor
    · rintro ⟨⟩
      exact ⟨rfl, rfl⟩
    · rintro ⟨-, rfl⟩
      rfl

end CoseKey

end DeviceTrust
