import DeviceTrust.Proofs.Cbor.Scalar
import DeviceTrust.Proofs.Cose.RoundTrip

/-!
# What a value says

The wire does not carry of which sort an array, a map or a byte string was, nor the name of a number
or the payload of a not-a-number. What a value says apart from these is its essence
(`Value.essence`). Reading back keeps it, as long as no map in the value has a repeated label or one
that could get lost among others (`Value.Tidy`, `Cbor.essence_asRead`).
-/

set_option autoImplicit false

namespace DeviceTrust

theorem Binary64.withoutPayload_withoutPayload (x : Binary64) :
    x.withoutPayload.withoutPayload = x.withoutPayload := by
  unfold withoutPayload
  by_cases h : x.isNaN = true
  · rw [if_pos h]
    rfl
  · rw [if_neg h, if_neg h]

namespace Value

/-! ## Essences -/

mutual

/-- **What a value says**, whatever sort of array, map or byte string says it: every array as one that
can change, every map as a plain one, every byte string as bytes, every number without its name. -/
def essence : Value → Value
  | registered r => int r.number
  | buffer b => bytes b
  | float x => float x.withoutPayload
  | list items | tuple items => list (itemsEssence items)
  | map _ es => map .plain (entriesEssence es)
  | tag number content => tag number (essence content)
  | v => v

def itemsEssence : List Value → List Value
  | [] => []
  | x :: rest => essence x :: itemsEssence rest

def entriesEssence : Entries → Entries
  | [] => []
  | (k, v) :: rest => (essence k, essence v) :: entriesEssence rest

end

theorem itemsEssence_eq_map (items : List Value) : itemsEssence items = items.map essence := by
  induction items with
  | nil => rfl
  | cons x rest ih => rw [itemsEssence, ih, List.map_cons]

theorem entriesEssence_eq_map (es : Entries) :
    entriesEssence es = es.map fun e => (e.1.essence, e.2.essence) := by
  induction es with
  | nil => rfl
  | cons e rest ih => rw [entriesEssence, ih, List.map_cons]

/-! ## Maps in order -/

/-- **A value with its maps in order**: no map in it has a repeated label, and every label is an
integer, a text or a byte string. -/
inductive Tidy : Value → Prop
  | list {items : List Value} (h : ∀ x ∈ items, Tidy x) : Tidy (.list items)
  | tuple {items : List Value} (h : ∀ x ∈ items, Tidy x) : Tidy (.tuple items)
  | map (flavour : MapFlavour) {es : Entries} (hd : es.Distinct) (hl : es.Labelled)
      (h : ∀ e ∈ es, Tidy e.2) : Tidy (.map flavour es)
  | tag (number : Nat) {content : Value} (h : Tidy content) : Tidy (.tag number content)
  | leaf {v : Value} (ha : v.kindOf ≠ .array) (hm : v.kindOf ≠ .map) (ht : v.kindOf ≠ .tag) :
      Tidy v

end Value

namespace Cbor

/-! ## Reading back -/

/-- Of a value without parts, reading back takes nothing but what is not said. -/
theorem essence_asRead_of_leaf {v : Value} (ha : v.kindOf ≠ .array) (hm : v.kindOf ≠ .map)
    (ht : v.kindOf ≠ .tag) (frozen : Bool) : (asRead v frozen).essence = v.essence := by
  cases v with
  | list _ | tuple _ => exact absurd rfl ha
  | map _ _ | coseKey _ => exact absurd rfl hm
  | tag _ _ => exact absurd rfl ht
  | float x => exact congrArg Value.float x.withoutPayload_withoutPayload
  | _ => rfl

theorem essence_of_isLabel {label : Value} (h : IsLabel label.plainNumber) :
    label.essence = label.plainNumber := by
  cases label with
  | int _ | registered _ | text _ | bytes _ => rfl
  | _ => cases h

/-- Entries of a map in order make the same entries when they are read back: no label is lost. -/
theorem ofList_entriesAsRead {es : Entries} (hd : es.Distinct) (hl : es.Labelled) (frozen : Bool) :
    Entries.ofList (entriesAsRead es frozen) = entriesAsRead es frozen := by
  refine Entries.ofList_eq_self (hd.of_labels ?_)
  rw [entriesAsRead_eq_map, Entries.labels, Entries.labels, List.map_map, List.map_map]
  exact List.map_congr_left fun e he => hl.asRead he true

/-- **Reading back changes nothing of what a value says.** -/
theorem essence_asRead {v : Value} (h : v.Tidy) (frozen : Bool) :
    (asRead v frozen).essence = v.essence := by
  induction h generalizing frozen with
  | leaf ha hm ht => exact essence_asRead_of_leaf ha hm ht frozen
  | tag number _ ih => exact congrArg (Value.tag number) (ih _)
  | @list items _ ih | @tuple items _ ih =>
      have hitems : Value.itemsEssence (itemsAsRead items frozen) = Value.itemsEssence items := by
        rw [Value.itemsEssence_eq_map, Value.itemsEssence_eq_map, itemsAsRead_eq_map, List.map_map]
        exact List.map_congr_left fun x hx => ih x hx frozen
      cases frozen <;> exact congrArg Value.list hitems
  | @map flavour es hd hl _ ih =>
      have hentries : Value.entriesEssence (entriesAsRead es frozen) = Value.entriesEssence es := by
        rw [Value.entriesEssence_eq_map, Value.entriesEssence_eq_map, entriesAsRead_eq_map,
          List.map_map]
        refine List.map_congr_left fun e he => Prod.ext ?_ (ih e he frozen)
        -- a label is read back as the plain one, and says no more than this
        show (asRead e.1 true).essence = e.1.essence
        have hplain : IsLabel e.1.plainNumber.plainNumber := by
          rw [Value.plainNumber_plainNumber]
          exact hl e he
        rw [hl.asRead he, essence_of_isLabel hplain, essence_of_isLabel (hl e he),
          Value.plainNumber_plainNumber]
      show (mapOf frozen (entriesAsRead es frozen)).essence = _
      rw [mapOf, ofList_entriesAsRead hd hl]
      exact congrArg (Value.map .plain) hentries

end Cbor

end DeviceTrust
