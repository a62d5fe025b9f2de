import DeviceTrust.Proofs.Cbor.OnWire
import DeviceTrust.Proofs.Cbor.Scalar
import DeviceTrust.Proofs.Number.Exact

/-!
# Entries as they are written

A map on the wire is a list of entries, and labels in it may agree: of these the first spelling stays,
and the last content wins. So the label of an entry and its content need not be written side by side.
The entries as they are written are those of `Cbor.Written`; of these a map that is read is made
(`Cbor.exists_written`).

What is found under an integer is written under a label that is the integer, in some spelling
(`Entries.exists_of_find?_ofList`). This takes that what agrees with an integer in any spelling is the
integer (`Value.sameAsInt_of_agrees`), although agreement is not transitive.
-/

set_option autoImplicit false

namespace DeviceTrust

/-! ## Labels that are one integer -/

theorem Binary64.isZero_congr {x y : Binary64} (h : x.equals y = true) : x.isZero = y.isZero := by
  simp only [equals, Bool.and_eq_true, Bool.or_eq_true, beq_iff_eq] at h
  rcases h.2 with hbits | ⟨hx, hy⟩
  · obtain ⟨bits⟩ := x
    obtain ⟨bits'⟩ := y
    cases hbits
    rfl
  · rw [hx, hy]

namespace TaggedObject

theorem real?_of_sameAsFloat {o : TaggedObject} {x : Binary64} (h : o.sameAsFloat x = true) :
    o.real? = Exact.ofBinary64? x := by
  cases o with
  | complex re im =>
      rw [sameAsFloat, Bool.and_eq_true] at h
      rw [real?, if_pos h.1, Exact.ofBinary64?_congr h.2]
  | _ =>
      unfold sameAsFloat at h
      split at h
      · rename_i hcomplex
        cases hcomplex
      · split at h
        · rename_i ha hb
          rw [ha, hb, beq_iff_eq.1 h]
        · cases h

theorem real?_of_same {o p : TaggedObject} (h : o.same p = true) : o.real? = p.real? := by
  unfold same at h
  split at h
  · rw [Bool.and_eq_true] at h
    rw [real?, real?, Binary64.isZero_congr h.2, Exact.ofBinary64?_congr h.1]
  · rw [Bool.and_eq_true] at h
    rw [real?, if_pos h.1, real?_of_sameAsFloat h.2]
  · rw [Bool.and_eq_true] at h
    rw [real?_of_sameAsFloat h.2, real?, if_pos h.1]
  · rfl
  · split at h
    · rename_i hx hy
      rw [hx, hy, beq_iff_eq.1 h]
    · rw [beq_iff_eq.1 h]

end TaggedObject

namespace Value

variable {v w : Value}

/-- What agrees with a whole number is the same integer, in this direction as well. -/
theorem agrees_wholeNumber {m : Int} (h : w.wholeNumber? = some m) (v : Value) :
    v.agrees w = v.sameAsInt m := by
  cases w with
  | int _ =>
      cases h
      exact agrees_int v _
  | registered r =>
      cases h
      exact agrees_registered v r
  | bool b =>
      cases h
      cases v with
      | bool _ | int _ | registered _ => exact (agrees_of_wholeNumber? rfl _).trans Bool.beq_comm
      | _ =>
          simp [agrees, sameOccurrence, same, sameAsInt, sameAsFloat, sameAsObject, wholeNumber?,
            int?, byteString?]
  | _ => cases h

theorem sameAsInt_of_agrees_float {x : Binary64} {n : Int} (h : v.agrees (float x) = true)
    (hx : x.equalsInt n = true) : v.sameAsInt n = true := by
  cases v with
  | bool _ | int _ | registered _ =>
      rw [agrees_of_wholeNumber? rfl] at h
      cases Binary64.equalsInt_injective h hx
      exact beq_self_eq_true _
  | float y => exact (IsScalar.sameAsInt_congr (.float y) (.float x) h n).trans hx
  | object o =>
      have hreal : o.real? = some (Exact.ofInt n) := by
        rw [TaggedObject.real?_of_sameAsFloat (x := x), Exact.ofBinary64?_eq_some_ofInt_iff.2 hx]
        simpa [agrees, sameOccurrence, same, sameAsObject] using h
      exact beq_iff_eq.2 hreal
  | _ => simp [agrees, sameOccurrence, same, wholeNumber?, int?, byteString?] at h

theorem real?_of_sameOccurrence {o p : TaggedObject}
    (h : sameOccurrence (object o) (object p) = true) : o.real? = p.real? := by
  unfold sameOccurrence at h
  split at h
  · rename_i hfloat _
    cases hfloat
  · rename_i re im re' im' ho hp
    cases ho
    cases hp
    simp only [Bool.and_eq_true, beq_iff_eq] at h
    obtain ⟨bits⟩ := re
    obtain ⟨bits'⟩ := re'
    obtain ⟨bits⟩ := im
    obtain ⟨bits'⟩ := im'
    obtain ⟨⟨rfl, rfl⟩, -⟩ := h
    rfl
  · cases h

theorem sameAsInt_of_agrees_object {o : TaggedObject} {n : Int}
    (h : v.agrees (object o) = true) (ho : o.real? = some (Exact.ofInt n)) :
    v.sameAsInt n = true := by
  cases v with
  | bool _ | int _ | registered _ =>
      rw [agrees_of_wholeNumber? rfl] at h
      cases Exact.ofInt_injective (Option.some.inj ((beq_iff_eq.1 h).symm.trans ho))
      exact beq_self_eq_true _
  | float x =>
      have hsame : o.sameAsFloat x = true := by
        simpa [agrees, sameOccurrence, same, sameAsFloat] using h
      refine Exact.ofBinary64?_eq_some_ofInt_iff.1 ?_
      rw [← TaggedObject.real?_of_sameAsFloat hsame, ho]
  | object p =>
      refine beq_iff_eq.2 (Eq.trans ?_ ho)
      rw [agrees, Bool.or_eq_true] at h
      rcases h with hoccurrence | hsame
      · exact real?_of_sameOccurrence hoccurrence
      · rw [same] at hsame
        exact TaggedObject.real?_of_same hsame
  | _ => simp [agrees, sameOccurrence, same, wholeNumber?, int?, byteString?] at h

/-- **What agrees with an integer in any spelling is this integer.** -/
theorem sameAsInt_of_agrees {n : Int} (h : v.agrees w = true) (hw : w.sameAsInt n = true) :
    v.sameAsInt n = true := by
  cases w with
  | bool _ | int _ | registered _ =>
      rw [agrees_wholeNumber rfl] at h
      cases Option.some.inj (beq_iff_eq.1 hw)
      exact h
  | float x => exact sameAsInt_of_agrees_float h hw
  | object o => exact sameAsInt_of_agrees_object h (beq_iff_eq.1 hw)
  | simple code =>
      cases v with
      | bool _ | int _ | registered _ =>
          rw [agrees_of_wholeNumber? rfl] at h
          cases (beq_iff_eq.1 h).trans (beq_iff_eq.1 hw).symm
          exact beq_self_eq_true _
      | simple code' =>
          have hcode : code' = code := by simpa [agrees, sameOccurrence, same] using h
          rw [hcode]
          exact hw
      | _ =>
          simp [agrees, sameOccurrence, same, sameAsFloat, sameAsObject, wholeNumber?, int?,
            byteString?] at h
  | _ => cases hw

end Value

namespace Entries

/-! ## Where the entries of a map come from -/

/-- An entry after an insertion was there before, or is the inserted one, or has its content under a
label that was there before. -/
theorem mem_insert {es : Entries} {label content : Value} {e : Value × Value}
    (h : e ∈ insert es label content) :
    e ∈ es ∨ e = (label, content) ∨ ∃ f ∈ es, label.agrees f.1 = true ∧ e = (f.1, content) := by
  induction es with
  | nil => exact .inr (.inl (List.mem_singleton.1 h))
  | cons f rest ih =>
      rw [insert] at h
      split at h
      · rename_i hagrees
        rcases List.mem_cons.1 h with rfl | h
        · exact .inr (.inr ⟨f, by simp, hagrees, rfl⟩)
        · exact .inl (by simp [h])
      · rcases List.mem_cons.1 h with rfl | h
        · exact .inl (by simp)
        · rcases ih h with h | h | ⟨g, hg, hagrees, h⟩
          · exact .inl (by simp [h])
          · exact .inr (.inl h)
          · exact .inr (.inr ⟨g, by simp [hg], hagrees, h⟩)

/-- **The label of an entry was given, and its content was given under a label that agrees.** -/
theorem exists_of_mem_ofList {pairs : List (Value × Value)} {e : Value × Value}
    (h : e ∈ ofList pairs) :
    ∃ p ∈ pairs, p.2 = e.2 ∧ (p.1 = e.1 ∨ p.1.agrees e.1 = true) := by
  revert e
  refine List.foldlRecOn (motive := fun es : Entries => ∀ {e : Value × Value}, e ∈ es →
    ∃ p ∈ pairs, p.2 = e.2 ∧ (p.1 = e.1 ∨ p.1.agrees e.1 = true)) pairs _ ?_ ?_
  · intro e he
    cases he
  · intro es ih p hp e he
    rcases mem_insert he with he | rfl | ⟨f, -, hagrees, rfl⟩
    · exact ih he
    · exact ⟨p, hp, rfl, .inl rfl⟩
    · exact ⟨p, hp, rfl, .inr hagrees⟩

/-- **What is found under an integer was given under a label that is this integer**, in whatever
spelling. -/
theorem exists_of_find?_ofList {pairs : List (Value × Value)} {n : Int} {v : Value}
    (h : find? (ofList pairs) (.int n) = some v) :
    ∃ p ∈ pairs, p.2 = v ∧ p.1.sameAsInt n = true := by
  obtain ⟨label, hmem, hlabel⟩ := exists_mem_of_find?_eq_some h
  rw [Value.int_agrees] at hlabel
  obtain ⟨p, hp, hcontent, rfl | hagrees⟩ := exists_of_mem_ofList hmem
  · exact ⟨p, hp, hcontent, hlabel⟩
  · exact ⟨p, hp, hcontent, Value.sameAsInt_of_agrees hagrees hlabel⟩

end Entries

namespace Cbor

/-! ## Maps as they are written -/

/-- The tag that marks CBOR data and means no more. -/
def selfDescribedTag : Nat := 55799

/-- **The map at the front of some bytes is written with these entries**, one after the other, before
labels that agree become one. The tag that marks CBOR data may stand before the map. -/
inductive WrittenAt : (depth : Nat) → (frozen : Bool) → Bytes → Entries → Prop
  | none {depth : Nat} {frozen : Bool} {first : UInt8} {rest left : Bytes}
      (hmap : first.toNat / 32 = 5) (h : afterNone? (first.toNat % 32) rest = some left) :
      WrittenAt depth frozen (first :: rest) []
  | entries {depth : Nat} {frozen : Bool} {first : UInt8} {rest left : Bytes} {ws : Entries}
      (hmap : first.toNat / 32 = 5)
      (h : readMap (readEntry (read depth) frozen) (first.toNat % 32) rest = some (ws, left)) :
      WrittenAt (depth + 1) frozen (first :: rest) ws
  | marked {depth : Nat} {frozen : Bool} {first : UInt8} {rest content : Bytes} {ws : Entries}
      (htag : first.toNat / 32 = 6)
      (h : argument (first.toNat % 32) rest = some (selfDescribedTag, content))
      (hcontent : WrittenAt depth (frozen || freezesContent selfDescribedTag) content ws) :
      WrittenAt (depth + 1) frozen (first :: rest) ws

/-- The map that some bytes encode is written with these entries. -/
def Written (b : Bytes) (ws : Entries) : Prop := WrittenAt depthLimit false b ws

/-- A tag that means a map marks CBOR data, and the map is its content. -/
theorem eq_of_interpret?_eq_map {frozen : Bool} {number : Nat} {content : Value}
    {flavour : MapFlavour} {es : Entries}
    (h : interpret? frozen number content = some (.map flavour es)) :
    number = selfDescribedTag ∧ content = .map flavour es := by
  unfold interpret? at h
  split at h
  · obtain ⟨_, -, h⟩ := Option.map_eq_some_iff.1 h
    cases h
  · obtain ⟨_, -, h⟩ := Option.map_eq_some_iff.1 h
    cases h
  · obtain ⟨_, -, h⟩ := Option.map_eq_some_iff.1 h
    cases h
  · split at h
    · cases h
    · obtain ⟨_, -, h⟩ := Option.map_eq_some_iff.1 h
      cases h
  · exact ⟨rfl, Option.some.inj h⟩
  · split at h
    · obtain ⟨_, -, h⟩ := Option.map_eq_some_iff.1 h
      cases h
    · cases h

theorem simpleOf_ne_map (code : Nat) (flavour : MapFlavour) (es : Entries) :
    simpleOf code ≠ .map flavour es := by
  unfold simpleOf
  repeat' split
  all_goals exact nofun

theorem readSimple_ne_map {info : Nat} {b rest : Bytes} {flavour : MapFlavour} {es : Entries} :
    readSimple info b ≠ some (.map flavour es, rest) := by
  intro h
  unfold readSimple at h
  split at h
  · exact simpleOf_ne_map _ _ _ (congrArg Prod.fst (Option.some.inj h))
  split at h
  · simp only [Option.bind_eq_bind, Option.bind_eq_some_iff] at h
    obtain ⟨⟨code, r⟩, -, h⟩ := h
    dsimp only at h
    split at h
    · cases h
    · exact simpleOf_ne_map _ _ _ (congrArg Prod.fst (Option.some.inj h))
  · -- a float of one of the three widths
    repeat
      split at h
      · obtain ⟨_, -, h⟩ := Option.map_eq_some_iff.1 h
        cases h
    cases h

/-- **How an item is a map**: it declares no entries, or the inner reader gives them, or it is marked
as CBOR data and the inner reader gives the map. -/
theorem map_of_readItem {inner : Option Reader} {frozen : Bool} {b rest : Bytes}
    {flavour : MapFlavour} {es : Entries}
    (h : readItem inner frozen b = some (.map flavour es, rest)) :
    ∃ first tail, b = first :: tail ∧
      ((first.toNat / 32 = 5 ∧ ∃ left, afterNone? (first.toNat % 32) tail = some left ∧ es = []) ∨
        (first.toNat / 32 = 5 ∧ ∃ item ws left, inner = some item ∧
          readMap (readEntry item frozen) (first.toNat % 32) tail = some (ws, left) ∧
          es = Entries.ofList ws) ∨
        (first.toNat / 32 = 6 ∧ ∃ item content left, inner = some item ∧
          argument (first.toNat % 32) tail = some (selfDescribedTag, content) ∧
          item (frozen || freezesContent selfDescribedTag) content
            = some (.map flavour es, left))) := by
  unfold readItem at h
  split at h
  · cases h
  rename_i first tail
  refine ⟨first, tail, rfl, ?_⟩
  -- one case for each major type: only 5, a map, and 6, a tag that says nothing, give a map
  dsimp only at h
  split at h
  · obtain ⟨_, -, h⟩ := Option.map_eq_some_iff.1 h
    cases h
  · obtain ⟨_, -, h⟩ := Option.map_eq_some_iff.1 h
    cases h
  · obtain ⟨_, -, h⟩ := Option.map_eq_some_iff.1 h
    cases h
  · simp only [Option.bind_eq_bind, Option.bind_eq_some_iff] at h
    obtain ⟨_, -, _, -, h⟩ := h
    cases h
  · split at h
    · cases frozen <;> cases h
    · simp only [Option.bind_eq_bind, Option.bind_eq_some_iff] at h
      obtain ⟨_, -, h⟩ := h
      cases frozen <;> cases h
  · rename_i hmajor
    split at h
    · rename_i left hnone
      cases h
      exact .inl ⟨hmajor, left, hnone, rfl⟩
    · simp only [Option.bind_eq_bind, Option.bind_eq_some_iff] at h
      obtain ⟨⟨ws, left⟩, ⟨item, hitem, hentries⟩, h⟩ := h
      cases h
      exact .inr (.inl ⟨hmajor, item, ws, left, hitem, hentries, rfl⟩)
  · rename_i hmajor
    simp only [Option.bind_eq_bind, Option.bind_eq_some_iff] at h
    obtain ⟨item, hitem, ⟨number, content⟩, hnumber, ⟨v, left⟩, hcontent, meaning, hmeaning, h⟩ := h
    cases h
    obtain ⟨rfl, rfl⟩ := eq_of_interpret?_eq_map hmeaning
    exact .inr (.inr ⟨hmajor, item, content, left, hitem, hnumber, hcontent⟩)
  · exact absurd h readSimple_ne_map

/-- **A map that is read is made of its entries as they are written**, by induction on the depth of
the reader: each mark of CBOR data before the map takes a level. -/
theorem exists_writtenAt_of_read {depth : Nat} {frozen : Bool} {b rest : Bytes}
    {flavour : MapFlavour} {es : Entries}
    (h : read depth frozen b = some (.map flavour es, rest)) :
    ∃ ws, WrittenAt depth frozen b ws ∧ es = Entries.ofList ws := by
  induction depth generalizing frozen b rest with
  | zero =>
      obtain ⟨first, tail, rfl, ⟨hmajor, left, hnone, rfl⟩ | ⟨-, item, _, _, hitem, -⟩ |
        ⟨-, item, _, _, hitem, -⟩⟩ := map_of_readItem h
      · exact ⟨[], .none hmajor hnone, rfl⟩
      · cases hitem
      · cases hitem
  | succ depth ih =>
      obtain ⟨first, tail, rfl, ⟨hmajor, left, hnone, rfl⟩ | ⟨hmajor, item, ws, left, hitem, hentries, hes⟩ |
        ⟨hmajor, item, content, left, hitem, hnumber, hcontent⟩⟩ := map_of_readItem h
      · exact ⟨[], .none hmajor hnone, rfl⟩
      · cases hitem
        exact ⟨ws, .entries hmajor hentries, hes⟩
      · cases hitem
        obtain ⟨ws, hws, hes⟩ := ih hcontent
        exact ⟨ws, .marked hmajor hnumber hws, hes⟩

/-- **What bytes encode as a map is made of the entries that are written there.** -/
theorem exists_written {b : Bytes} {flavour : MapFlavour} {es : Entries}
    (h : decode? b = some (.map flavour es)) :
    ∃ ws, Written b ws ∧ es = Entries.ofList ws := by
  obtain ⟨⟨v, rest⟩, hread, rfl⟩ := Option.map_eq_some_iff.1 h
  exact exists_writtenAt_of_read hread

theorem readMap_of_afterNone? {entry : Bytes → Option ((Value × Value) × Bytes)} {info : Nat}
    {b left rest : Bytes} {ws : Entries} (h : afterNone? info b = some left)
    (hentries : readMap entry info b = some (ws, rest)) : ws = [] := by
  have hargument : argument info b = some (0, left) := by
    unfold afterNone? at h
    split at h
    · rename_i hargument
      rw [hargument, Option.some.inj h]
    · cases h
  have hinfo : info ≠ 31 := by
    rintro rfl
    cases hargument
  rw [readMap, if_neg hinfo, hargument] at hentries
  cases hentries
  rfl

/-- **Bytes are written with one list of entries at most.** -/
theorem WrittenAt.unique {depth : Nat} {frozen : Bool} {b : Bytes} {ws ws' : Entries}
    (h : WrittenAt depth frozen b ws) (h' : WrittenAt depth frozen b ws') : ws = ws' := by
  induction h generalizing ws' with
  | none hmap hnone =>
      cases h' with
      | none => rfl
      | entries _ hentries => exact (readMap_of_afterNone? hnone hentries).symm
      | marked htag => omega
  | entries hmap hentries =>
      cases h' with
      | none _ hnone => exact readMap_of_afterNone? hnone hentries
      | entries _ hentries' => exact congrArg Prod.fst (Option.some.inj (hentries.symm.trans hentries'))
      | marked htag => omega
  | marked htag hnumber _ ih =>
      cases h' with
      | none hmap | entries hmap => omega
      | marked _ hnumber' hcontent' =>
          cases hnumber.symm.trans hnumber'
          exact ih hcontent'

end Cbor

end DeviceTrust
