import DeviceTrust.Cose.Key
import DeviceTrust.Proofs.Cbor.Entries

/-!
# Structured keys in order

A structured key that the library makes has no repeated label, and no number in it is written by
its name (`Normal`). Such a key is what its own parameters make, and it stays in order when a number
is added under a label that it does not have, in whatever place (`normal_added`). What is found
under the registered labels changes in one place only (`get_added`). A key whose labels are integers
is looked through one label after the other (`find?_mk_cons_int`).
-/

set_option autoImplicit false

namespace DeviceTrust

namespace Value

@[simp] theorem plainNumber_plainNumber (v : Value) : v.plainNumber.plainNumber = v.plainNumber := by
  cases v <;> rfl

/-! ## Integers as labels -/

theorem int_agrees (n : Int) (v : Value) : (int n).agrees v = v.sameAsInt n := by
  simp [agrees, sameOccurrence, same]

theorem agrees_int (v : Value) (n : Int) : v.agrees (int n) = v.sameAsInt n := by
  cases v <;>
    simp [agrees, sameOccurrence, same, sameAsInt, sameAsFloat, sameAsObject, wholeNumber?, int?,
      byteString?, Bool.beq_comm (a := n)]

theorem int_agrees_int {m n : Int} : (int m).agrees (int n) = true ↔ m = n := by
  rw [int_agrees]
  show (some n == some m) = true ↔ m = n
  rw [beq_iff_eq, Option.some_inj]
  exact eq_comm

end Value

theorem KeyLabel.number_injective {l l' : KeyLabel} (h : l.number = l'.number) : l = l' := by
  cases l <;> cases l' <;> first | rfl | cases h

namespace CoseKey

/-! ## Keys in order -/

/-- **A key as the library makes it**: no repeated label, and no number written by its name. -/
structure Normal (k : CoseKey) : Prop where
  distinct : k.parameters.Distinct
  plain : ∀ e ∈ k.parameters, e.1.plainNumber = e.1 ∧ e.2.plainNumber = e.2

theorem normal_new (es : Entries) : (new es).Normal := by
  refine ⟨Entries.distinct_ofList _, ?_⟩
  refine Entries.ofList_forall (P := fun v => v.plainNumber = v) (Q := fun v => v.plainNumber = v) ?_
  intro e he
  obtain ⟨x, -, rfl⟩ := List.mem_map.1 he
  exact ⟨Value.plainNumber_plainNumber x.1, Value.plainNumber_plainNumber x.2⟩

/-- **A key in order is what its parameters make.** -/
theorem new_eq_of_normal {es : Entries} (h : Normal ⟨es⟩) : new es = ⟨es⟩ := by
  have hplain : (es.map fun e => (e.1.plainNumber, e.2.plainNumber)) = es := by
    refine (List.map_congr_left ?_).trans (List.map_id es)
    intro e he
    have he := h.plain e he
    exact Prod.ext he.1 he.2
  rw [new, hplain, Entries.ofList_eq_self h.distinct]

/-! ## Parameters under integers -/

@[simp] theorem find?_mk_nil (label : Value) : find? ⟨[]⟩ label = none := rfl

@[simp] theorem find?_mk_cons_int (m n : Int) (v : Value) (es : Entries) :
    find? ⟨(.int n, v) :: es⟩ (.int m) = if m = n then some v else find? ⟨es⟩ (.int m) := by
  rw [find?, Entries.find?_cons]
  by_cases h : m = n
  · rw [if_pos h, if_pos (Value.int_agrees_int.2 h)]
  · rw [if_neg h, if_neg fun ha => h (Value.int_agrees_int.1 ha)]
    rfl

@[simp] theorem get_mk_cons_int (n : Int) (v : Value) (es : Entries) (label : KeyLabel) :
    get ⟨(.int n, v) :: es⟩ label = if label.number = n then v else get ⟨es⟩ label := by
  rw [get, find?_mk_cons_int]
  by_cases h : label.number = n
  · rw [if_pos h, if_pos h]
    rfl
  · rw [if_neg h, if_neg h]
    rfl

/-- Parameters under integers are in order if no integer is repeated and no number among the
contents is written by its name. -/
theorem normal_of_integers {es : Entries} {ns : List Int} (hl : es.labels = ns.map .int)
    (hns : ns.Nodup) (hplain : ∀ e ∈ es, e.2.plainNumber = e.2) : Normal ⟨es⟩ := by
  refine ⟨?_, fun e he => ⟨?_, hplain e he⟩⟩
  · rw [Entries.Distinct, hl, List.pairwise_map]
    refine hns.imp fun hne => ?_
    rw [← Bool.not_eq_true, Value.int_agrees_int]
    exact fun h => hne h.symm
  · have hlabel : e.1 ∈ ns.map Value.int := hl ▸ List.mem_map_of_mem he
    obtain ⟨n, -, hn⟩ := List.mem_map.1 hlabel
    rw [← hn]
    rfl

/-! ## One number more -/

section Added

variable {k : CoseKey} {label : KeyLabel} {before after : Entries}

/-- A number under a new label leaves a key in order, wherever it is put. -/
theorem normal_added (hk : k.Normal) (hs : k.parameters = before ++ after)
    (hnew : k.find? (.int label.number) = none) (n : Int) :
    Normal ⟨before ++ (.int label.number, .int n) :: after⟩ := by
  have hnone : ∀ l ∈ k.parameters.labels, (Value.int label.number).agrees l = false :=
    Entries.find?_eq_none_iff.1 hnew
  have hd : (before.labels ++ after.labels).Pairwise fun l l' => l'.agrees l = false := by
    have hd := hk.distinct
    rwa [Entries.Distinct, hs, Entries.labels, List.map_append] at hd
  rw [hs, Entries.labels, List.map_append] at hnone
  refine ⟨?_, ?_⟩
  · show ((before ++ (Value.int label.number, Value.int n) :: after).map (·.1)).Pairwise _
    rw [List.map_append, List.map_cons, List.pairwise_append, List.pairwise_cons]
    rw [List.pairwise_append] at hd
    refine ⟨hd.1, ⟨?_, hd.2.1⟩, ?_⟩
    · intro l hl
      rw [Value.agrees_int, ← Value.int_agrees]
      exact hnone l (List.mem_append_right _ hl)
    · intro l hl l' hl'
      rcases List.mem_cons.1 hl' with rfl | hl'
      · exact hnone l (List.mem_append_left _ hl)
      · exact hd.2.2 l hl l' hl'
  · intro e he
    rcases List.mem_append.1 he with he | he
    · exact hk.plain e (hs ▸ List.mem_append_left _ he)
    · rcases List.mem_cons.1 he with rfl | he
      · exact ⟨rfl, rfl⟩
      · exact hk.plain e (hs ▸ List.mem_append_right _ he)

/-- **What is found after a number is added**: the number under its label, and under any other
registered label what was there. -/
theorem get_added (hk : k.Normal) (hs : k.parameters = before ++ after)
    (hnew : k.find? (.int label.number) = none) (n : Int) (other : KeyLabel) :
    (new (before ++ (.int label.number, .int n) :: after)).get other
      = if other = label then .int n else k.get other := by
  rw [new_eq_of_normal (normal_added hk hs hnew n)]
  unfold find? at hnew
  unfold get find?
  rw [hs, Entries.find?_append] at hnew ⊢
  rw [Entries.find?_append, Entries.find?_cons]
  by_cases h : other = label
  · have hbefore : Entries.find? before (.int label.number) = none := (Option.or_eq_none_iff.1 hnew).1
    rw [if_pos h, h, hbefore, if_pos (Value.int_agrees_int.2 rfl)]
    rfl
  · have hn : ¬ (Value.int other.number).agrees (Value.int label.number) = true :=
      fun ha => h (KeyLabel.number_injective (Value.int_agrees_int.1 ha))
    rw [if_neg h, if_neg hn]

end Added

end CoseKey

end DeviceTrust
