import DeviceTrust.Proofs.Cbor.Items

/-!
# The kind of a value and the head of its item

The first byte of an item says of which kind the item is (`Cbor.headKind`): its upper three bits are the
major type, and under the last one its lower five bits tell simple values, undefined and the widths of
floating-point numbers apart. The kind of the value that is read is this kind, in whatever place and
width the item is written (`Cbor.kindOf_of_readItem`), but for one sort of item: a simple value without
a meaning (`Cbor.IsUnassigned`) counts as undefined. Items under a tag are tagged values where the tag
has no meaning.
-/

set_option autoImplicit false

namespace DeviceTrust.Cbor

/-! ## Heads -/

/-- **The kind that the first byte of an item names.** -/
def headKind (first : UInt8) : Kind :=
  match first.toNat / 32 with
  | 0 | 1 => .integer
  | 2 => .byteString
  | 3 => .textString
  | 4 => .array
  | 5 => .map
  | 6 => .tag
  | _ =>
    match first.toNat % 32 with
    | 23 => .undefined
    | 25 | 26 | 27 => .float
    | _ => .simpleValue

/-- **The head of a simple value without a meaning**: the code stands in the first byte, or in a byte of
its own. -/
def IsUnassigned (first : UInt8) : Prop :=
  first.toNat / 32 = 7 ∧ (first.toNat % 32 < 20 ∨ first.toNat % 32 = 24)

instance (first : UInt8) : Decidable (IsUnassigned first) :=
  inferInstanceAs (Decidable (_ ∧ _))

variable {first : UInt8} {frozen : Bool} {tail rest : Bytes} {v : Value}

theorem headKind_of_isUnassigned (h : IsUnassigned first) : headKind first = .simpleValue := by
  obtain ⟨hmajor, hinfo⟩ := h
  simp only [headKind, hmajor]
  split <;> first | rfl | omega

/-! ## Simple values and floating-point numbers -/

/-- A code stands for a value of its own, or for a simple value without a meaning. -/
theorem simpleOf_of_unassigned {code : Nat} (h : code < 20 ∨ 24 ≤ code) :
    simpleOf code = .simple (UInt8.ofNat code) := by
  rw [simpleOf, if_neg (by omega), if_neg (by omega), if_neg (by omega), if_neg (by omega)]

/-- **What is read under the last major type.** -/
theorem kindOf_of_readSimple (hmajor : first.toNat / 32 = 7)
    (h : readSimple (first.toNat % 32) tail = some (v, rest)) :
    (IsUnassigned first ∧ ∃ code, v = .simple code) ∨
      ¬ IsUnassigned first ∧ v.kindOf = headKind first := by
  unfold readSimple at h
  split at h
  · rename_i hshort
    cases h
    by_cases hlow : first.toNat % 32 < 20
    · exact .inl ⟨⟨hmajor, .inl hlow⟩, _, simpleOf_of_unassigned (.inl hlow)⟩
    · -- false, true, null and undefined
      refine .inr ⟨fun hun => by have := hun.2; omega, ?_⟩
      have hcases : first.toNat % 32 = 20 ∨ first.toNat % 32 = 21 ∨ first.toNat % 32 = 22 ∨
          first.toNat % 32 = 23 := by omega
      unfold headKind
      rcases hcases with hcode | hcode | hcode | hcode <;> rw [hmajor, hcode] <;> rfl
  split at h
  · rename_i hown
    simp only [Option.bind_eq_bind, Option.bind_eq_some_iff] at h
    obtain ⟨⟨code, left⟩, -, h⟩ := h
    dsimp only at h
    split at h
    · cases h
    · cases h
      exact .inl ⟨⟨hmajor, .inr hown⟩, _, simpleOf_of_unassigned (.inr (by omega))⟩
  · -- a floating-point number of one of the three widths
    refine .inr ⟨fun hun => by have := hun.2; omega, ?_⟩
    unfold headKind
    rw [hmajor]
    repeat
      split at h
      · rename_i hwidth
        obtain ⟨x, -, h⟩ := Option.map_eq_some_iff.1 h
        cases h
        rw [hwidth]
        rfl
    cases h

/-! ## Items -/

theorem kindOf_array (frozen : Bool) (items : List Value) :
    Value.kindOf (if frozen then .tuple items else .list items) = .array := by
  cases frozen <;> rfl

/-- **What is read of an item under one of the first six major types** is of the kind that its head
names. What is nested in the item has no part in it. -/
theorem kindOf_of_readItem {inner : Option Reader}
    (h : readItem inner frozen (first :: tail) = some (v, rest)) (hmajor : first.toNat / 32 < 6) :
    v.kindOf = headKind first := by
  have hcases : first.toNat / 32 = 0 ∨ first.toNat / 32 = 1 ∨ first.toNat / 32 = 2 ∨
      first.toNat / 32 = 3 ∨ first.toNat / 32 = 4 ∨ first.toNat / 32 = 5 := by omega
  rcases hcases with hmajor | hmajor | hmajor | hmajor | hmajor | hmajor <;>
    simp only [readItem, headKind, hmajor, Option.bind_eq_bind] at h ⊢
  · obtain ⟨_, -, h⟩ := Option.map_eq_some_iff.1 h
    cases h
    rfl
  · obtain ⟨_, -, h⟩ := Option.map_eq_some_iff.1 h
    cases h
    rfl
  · obtain ⟨_, -, h⟩ := Option.map_eq_some_iff.1 h
    cases h
    rfl
  · obtain ⟨_, -, h⟩ := Option.bind_eq_some_iff.1 h
    obtain ⟨_, -, h⟩ := Option.bind_eq_some_iff.1 h
    cases h
    rfl
  · -- an array that declares no items, or one whose items the inner reader gives
    split at h
    · cases h
      exact kindOf_array frozen []
    · obtain ⟨_, -, h⟩ := Option.bind_eq_some_iff.1 h
      cases h
      exact kindOf_array frozen _
  · -- a map, likewise
    split at h
    · cases h
      rfl
    · obtain ⟨_, -, h⟩ := Option.bind_eq_some_iff.1 h
      cases h
      rfl

/-- **What is read under a tag without a meaning**: the tag, and its content. -/
theorem tag_of_readItem {inner : Option Reader}
    (h : readItem inner frozen (first :: tail) = some (v, rest)) (htag : first.toNat / 32 = 6)
    {number : Nat} {left : Bytes} (hnumber : argument (first.toNat % 32) tail = some (number, left))
    (hm : hasMeaning number = false) : ∃ content, v = .tag number content := by
  simp only [readItem, htag, hnumber, Option.bind_eq_bind, Option.bind_some,
    Option.bind_eq_some_iff, interpret?_of_not_hasMeaning hm] at h
  obtain ⟨_, -, ⟨content, _⟩, -, h⟩ := h
  cases h
  exact ⟨content, rfl⟩

theorem kindOf_eq_tag_iff : v.kindOf = .tag ↔ ∃ number content, v = .tag number content := by
  cases v <;> simp [Value.kindOf]

/-- What is read at any depth is read as an item, with some reader for what is nested. -/
theorem exists_readItem_of_read {depth : Nat} {b : Bytes}
    (h : read depth frozen b = some (v, rest)) :
    ∃ inner, readItem inner frozen b = some (v, rest) := by
  cases depth with
  | zero => exact ⟨none, h⟩
  | succ depth => exact ⟨some (read depth), h⟩

/-- **The kind of a value is the kind that its item's head names**, wherever the item stands, whatever is
nested in it and however wide its numbers are written, as long as it has no tag and is not a simple
value without a meaning. Such a simple value is the one exception: its head names a simple value, and
it counts as undefined. An item under a tag is of the kind of tags exactly if a tagged value is handed
over, and it is for every tag that has no meaning. -/
theorem kind_follows_head {depth : Nat} (h : read depth frozen (first :: tail) = some (v, rest)) :
    (first.toNat / 32 ≠ 6 → (v.kindOf = headKind first ↔ ¬ IsUnassigned first)) ∧
    (IsUnassigned first →
      headKind first = .simpleValue ∧ v.kindOf = .undefined ∧ ∃ code, v = .simple code) ∧
    (first.toNat / 32 = 6 →
      (v.kindOf = .tag ↔ ∃ number content, v = .tag number content) ∧
      ∀ number left, argument (first.toNat % 32) tail = some (number, left) →
        hasMeaning number = false → ∃ content, v = .tag number content ∧ v.kindOf = .tag) := by
  obtain ⟨inner, hitem⟩ := exists_readItem_of_read h
  have hbyte : first.toNat < 256 := first.toNat_lt
  refine ⟨fun htag => ?_, fun hun => ?_, fun htag => ⟨kindOf_eq_tag_iff, ?_⟩⟩
  · by_cases hmajor : first.toNat / 32 = 7
    · rw [readItem_eq_readSimple inner frozen hmajor] at hitem
      rcases kindOf_of_readSimple hmajor hitem with ⟨hun, code, rfl⟩ | ⟨hun, hkind⟩
      · rw [headKind_of_isUnassigned hun]
        exact iff_of_false (nofun) fun hnot => hnot hun
      · exact iff_of_true hkind hun
    · exact iff_of_true (kindOf_of_readItem hitem (by omega)) fun hun => hmajor hun.1
  · rw [readItem_eq_readSimple inner frozen hun.1] at hitem
    rcases kindOf_of_readSimple hun.1 hitem with ⟨-, code, rfl⟩ | ⟨hnot, -⟩
    · exact ⟨headKind_of_isUnassigned hun, rfl, code, rfl⟩
    · exact absurd hun hnot
  · intro number left hnumber hm
    obtain ⟨content, rfl⟩ := tag_of_readItem hitem htag hnumber hm
    exact ⟨content, rfl, rfl⟩

/-- A map in an array of no declared length, where nothing can change; a text under a tag; and a simple
value without a meaning. -/
theorem kind_follows_head_nested :
    (∃ v, read 3 true [0x9f, 0xbf, 0x61, 0x61, 0xf9, 0x3c, 0x00, 0xff, 0xff] = some (v, []) ∧
      v.kindOf = .array) ∧
    (∃ v, read 3 false [0xd9, 0x00, 0x12, 0x60] = some (v, []) ∧ v.kindOf = .tag) ∧
    ∃ v, read 3 false [0xf8, 0xff] = some (v, []) ∧ v.kindOf = .undefined := by
  have harray : read 3 true [0x9f, 0xbf, 0x61, 0x61, 0xf9, 0x3c, 0x00, 0xff, 0xff]
      = some (.tuple [.map .frozen [(.text "a", .float ⟨0x3ff0000000000000⟩)]], []) := rfl
  have htag : read 3 false [0xd9, 0x00, 0x12, 0x60] = some (.tag 18 (.text ""), []) := rfl
  have hsimple : read 3 false [0xf8, 0xff] = some (.simple 255, []) := rfl
  refine ⟨⟨_, harray, ?_⟩, ⟨_, htag, ?_⟩, ⟨_, hsimple, ?_⟩⟩
  · exact ((kind_follows_head harray).1 (by decide)).2 (by decide)
  · obtain ⟨content, -, hkind⟩ := ((kind_follows_head htag).2.2 (by decide)).2 18 [0x60] rfl rfl
    exact hkind
  · exact ((kind_follows_head hsimple).2.1 (by decide)).2.1

/-- **Not every kind is the one that the head names**: the simple value 32 counts as undefined. -/
theorem kind_of_unassigned_simple :
    ∃ v, decode? [0xf8, 0x20] = some v ∧ headKind 0xf8 = .simpleValue ∧ v.kindOf ≠ .simpleValue :=
  ⟨.simple 32, rfl, rfl, by decide⟩

end DeviceTrust.Cbor
