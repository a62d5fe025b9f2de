import DeviceTrust.Proofs.Cose.Ordinary

/-!
# Equal keys and their hashes

Two keys are the same if they have the same entries in any order, each number in any spelling. The
hash of a key is taken over its encoding, where order and spelling count. So keys that are the same
have the same hash only if they are spelled alike as well: the same labels in the same order, and
everything of the same kind (`Value.spelledAlike`, `CoseKey.spelledAlike`).

For ordinary values that agree, to be spelled alike and to say the same is one thing
(`CoseKey.spelledAlike_iff`), and the encoding depends on what a value says and tells all of it. So this
is exactly the condition; a key that lists its entries in another order is the same key
(`CoseKey.same_of_perm`), but it is spelled in another way and has another hash.
-/

set_option autoImplicit false

namespace DeviceTrust

theorem forall₂_and {α β : Type} {R S : α → β → Prop} {xs : List α} {ys : List β}
    (hR : List.Forall₂ R xs ys) (hS : List.Forall₂ S xs ys) :
    List.Forall₂ (fun x y => R x y ∧ S x y) xs ys := by
  induction hR with
  | nil => exact .nil
  | cons hfirst _ ih =>
      cases hS with
      | cons hfirst' hrest => exact .cons ⟨hfirst, hfirst'⟩ (ih hrest)

namespace Value

/-! ## Spelling -/

mutual

/-- Whether two values that agree are **spelled alike**: numbers and strings are of one kind, and a
zero has the same sign; the items of arrays and the entries of maps are spelled alike, one by one in
order. -/
def spelledAlike : Value → Value → Bool
  | float x, v => match v with
    | float y => x.bits == y.bits
    | _ => false
  | list xs, v => match v with
    | list ys => itemsSpelledAlike xs ys
    | _ => false
  | map _ es, v => match v with
    | map _ fs => entriesSpelledAlike es fs
    | _ => false
  | v, w => v.kindOf == w.kindOf

def itemsSpelledAlike : List Value → List Value → Bool
  | [], ys => ys.isEmpty
  | x :: xs, ys => match ys with
    | [] => false
    | y :: ys => spelledAlike x y && itemsSpelledAlike xs ys

def entriesSpelledAlike : Entries → Entries → Bool
  | [], fs => fs.isEmpty
  | (k, v) :: es, fs => match fs with
    | [] => false
    | (l, w) :: fs =>
      k.agrees l && spelledAlike k l && spelledAlike v w && entriesSpelledAlike es fs

end

theorem itemsSpelledAlike_iff {xs ys : List Value} :
    itemsSpelledAlike xs ys = true ↔ List.Forall₂ (fun x y => x.spelledAlike y = true) xs ys := by
  induction xs generalizing ys with
  | nil => cases ys <;> simp [itemsSpelledAlike]
  | cons x xs ih =>
      cases ys with
      | nil => simp [itemsSpelledAlike]
      | cons y ys => rw [itemsSpelledAlike, Bool.and_eq_true, ih, List.forall₂_cons]

theorem entriesSpelledAlike_iff {es fs : Entries} :
    entriesSpelledAlike es fs = true ↔
      List.Forall₂ (fun e f => (e.1.agrees f.1 = true ∧ e.1.spelledAlike f.1 = true) ∧
        e.2.spelledAlike f.2 = true) es fs := by
  induction es generalizing fs with
  | nil => cases fs <;> simp [entriesSpelledAlike]
  | cons e es ih =>
      obtain ⟨k, v⟩ := e
      cases fs with
      | nil => simp [entriesSpelledAlike]
      | cons f fs =>
          obtain ⟨l, w⟩ := f
          rw [entriesSpelledAlike, Bool.and_eq_true, Bool.and_eq_true, Bool.and_eq_true, ih,
            List.forall₂_cons]

theorem kindOf_essence (v : Value) : v.essence.kindOf = v.kindOf := by
  cases v <;> rfl

variable {v w : Value}

theorem kindOf_eq_of_essence (h : v.essence = w.essence) : v.kindOf = w.kindOf := by
  rw [← kindOf_essence v, h, kindOf_essence]

/-- **Ordinary values that say the same are spelled alike.** -/
theorem Ordinary.spelledAlike_of_essence (hv : v.Ordinary) (hw : w.Ordinary)
    (h : v.essence = w.essence) : v.spelledAlike w = true := by
  induction hv generalizing w with
  | null | bool _ | int _ | registered _ | text _ | bytes _ | buffer _ =>
      exact beq_iff_eq.2 (kindOf_eq_of_essence h)
  | @float x hx =>
      cases hw with
      | float hy =>
          rw [essence, essence, Binary64.withoutPayload_of_isNaN_eq_false hx,
            Binary64.withoutPayload_of_isNaN_eq_false hy] at h
          cases h
          exact beq_self_eq_true _
      | _ => cases h
  | @list items _ ih =>
      cases hw with
      | @list items' hw =>
          rw [essence, essence, itemsEssence_eq_map, itemsEssence_eq_map, list.injEq] at h
          refine itemsSpelledAlike_iff.2 (forall₂_imp_of_mem (map_eq_map_iff_forall₂.1 h) ?_)
          exact fun x hx y hy hxy => ih x hx (hw y hy) hxy
      | _ => cases h
  | @map flavour es hd hl hk _ ihk ih =>
      cases hw with
      | @map flavour' fs hd' hl' hk' hv' =>
          rw [essence, essence, entriesEssence_eq_map, entriesEssence_eq_map, map.injEq] at h
          refine entriesSpelledAlike_iff.2
            (forall₂_imp_of_mem (map_eq_map_iff_forall₂.1 h.2) fun e he f hf hef => ?_)
          rw [Prod.mk.injEq] at hef
          exact ⟨⟨(hk e he).agrees_of_essence (hk' f hf) hef.1, ihk e he (hk' f hf) hef.1⟩,
            ih e he (hv' f hf) hef.2⟩
      | _ => cases h

/-- **Ordinary values that agree and are spelled alike say the same.** -/
theorem Ordinary.essence_of_spelledAlike (hv : v.Ordinary) (hw : w.Ordinary)
    (h : v.agrees w = true) (hs : v.spelledAlike w = true) : v.essence = w.essence := by
  induction hv generalizing w with
  | null =>
      cases hw with
      | null => rfl
      | _ => simp [agrees, same, sameOccurrence] at h
  | bool b =>
      rw [agrees_of_wholeNumber? rfl] at h
      cases hw with
      | bool b' => cases b <;> cases b' <;> first | rfl | cases h
      | null => cases h
      | _ => cases hs
  | int n | registered n =>
      rw [agrees_of_wholeNumber? rfl] at h
      cases hw with
      | int m | registered m =>
          exact congrArg Value.int (Option.some.inj (beq_iff_eq.1 h)).symm
      | _ => cases hs
  | @float x hx =>
      cases hw with
      | @float y hy =>
          obtain ⟨bits⟩ := x
          obtain ⟨bits'⟩ := y
          obtain rfl : bits = bits' := beq_iff_eq.1 hs
          rfl
      | _ => cases hs
  | text s =>
      cases hw with
      | text t =>
          have hst : s = t := by simpa [agrees, same, sameOccurrence] using h
          rw [hst]
      | _ => cases hs
  | bytes b | buffer b =>
      cases hw with
      | bytes c | buffer c =>
          have hbytes : c = b := by simpa [agrees, same, sameOccurrence, byteString?] using h
          exact congrArg Value.bytes hbytes.symm
      | _ => cases hs
  | @list items _ ih =>
      cases hw with
      | @list items' hw =>
          have hsame : sameItems items items' = true := by
            simpa [agrees, same, sameOccurrence] using h
          rw [essence, essence, itemsEssence_eq_map, itemsEssence_eq_map]
          refine congrArg Value.list (map_eq_map_iff_forall₂.2 ?_)
          refine forall₂_imp_of_mem
            (forall₂_and (sameItems_iff.1 hsame) (itemsSpelledAlike_iff.1 hs)) ?_
          exact fun x hx y hy hxy => ih x hx (hw y hy) hxy.1 hxy.2
      | _ => cases hs
  | @map flavour es hd hl hk _ ihk ih =>
      cases hw with
      | @map flavour' fs hd' hl' hk' hv' =>
          have hsame : same (.map flavour es) (.map flavour' fs) = true := by
            simpa [agrees, sameOccurrence] using h
          obtain ⟨-, hfound⟩ := same_map_iff.1 hsame
          rw [essence, essence, entriesEssence_eq_map, entriesEssence_eq_map]
          refine congrArg (Value.map .plain) (map_eq_map_iff_forall₂.2 ?_)
          refine forall₂_imp_of_mem (entriesSpelledAlike_iff.1 hs) fun e he f hf hef => ?_
          obtain ⟨⟨hagrees, hlabel⟩, hcontent⟩ := hef
          have hessence : e.1.essence = f.1.essence := ihk e he (hk' f hf) hagrees hlabel
          -- the labels are one plain label, and so what is found under the first stands in this place
          have hplain : e.1.plainNumber = f.1.plainNumber := by
            rw [← (hk e he).essence_of_isScalar (hl e he), hessence,
              (hk' f hf).essence_of_isScalar (hl' f hf)]
          obtain ⟨u, hu, hagree⟩ := hfound e he
          have hself := (hk' f hf).agrees_self_of_isScalar (hl' f hf)
          rw [← find?_plainNumber, hplain, find?_plainNumber,
            Entries.find?_of_mem hd' hf hself] at hu
          cases hu
          exact Prod.ext hessence (ih e he (hv' f hf) hagree hcontent)
      | _ => cases hs

end Value

namespace CoseKey

variable {a b : CoseKey} {α : Type} {hash : Bytes → α}

/-! ## Hashes -/

/-- **The hash of a key**: a hash of its encoding. -/
def hashWith (hash : Bytes → α) (k : CoseKey) : Except Error α := k.encode.map hash

def spelledAlike (a b : CoseKey) : Bool := Value.entriesSpelledAlike a.parameters b.parameters

theorem exists_encode_of_ordinary (h : a.parameters.Ordinary) : ∃ c, a.encode = .ok c := by
  obtain ⟨depth, hplain⟩ := Cbor.exists_plain (h.map .plain)
  obtain ⟨c, hc⟩ := Cbor.exists_encode? hplain
  exact ⟨c, encode_eq_ok_iff.2 hc⟩

theorem hashWith_of_encode {c : Bytes} (h : a.encode = .ok c) : a.hashWith hash = .ok (hash c) := by
  rw [hashWith, h]
  rfl

theorem hashWith_ne_of_encode {c d : Bytes} (hc : a.encode = .ok c) (hd : b.encode = .ok d)
    (hne : c ≠ d) (hhash : Function.Injective hash) : a.hashWith hash ≠ b.hashWith hash := by
  rw [hashWith_of_encode hc, hashWith_of_encode hd]
  exact fun h => hne (hhash (Except.ok.inj h))

/-- **Keys that say the same have the same encoding**, whatever their parameters are. -/
theorem encode_congr
    (h : Value.entriesEssence a.parameters = Value.entriesEssence b.parameters) :
    a.encode = b.encode := by
  have hmap : (Value.map .plain a.parameters).essence = (Value.map .plain b.parameters).essence :=
    congrArg (Value.map .plain) h
  rw [encode, encode, Cbor.encode?_congr hmap]

/-- **Of keys that are the same, those that are spelled alike say the same.** -/
theorem spelledAlike_iff (ha : a.parameters.Ordinary) (hb : b.parameters.Ordinary)
    (h : a.same b = true) :
    a.spelledAlike b = true ↔
      Value.entriesEssence a.parameters = Value.entriesEssence b.parameters := by
  have ha := ha.map .plain
  have hb := hb.map .plain
  constructor
  · intro hs
    have hessence := ha.essence_of_spelledAlike hb (same_iff_agrees.1 h) hs
    rw [Value.essence, Value.essence, Value.map.injEq] at hessence
    exact hessence.2
  · intro hessence
    exact ha.spelledAlike_of_essence hb (congrArg (Value.map .plain) hessence)

/-- **The order of parameters has no part in sameness.** -/
theorem same_of_perm (ha : a.parameters.Ordinary) (hb : b.parameters.Ordinary)
    (h : a.parameters.Perm b.parameters) : a.same b = true := by
  refine same_iff_agrees.2 ?_
  have hsame : Value.same (.map .plain a.parameters) (.map .plain b.parameters) = true := by
    refine Value.same_map_iff.2 ⟨h.length_eq, fun e he => ⟨e.2, ?_, ?_⟩⟩
    · have hself := (ha.labels e he).agrees_self_of_isScalar (ha.scalars e he)
      exact Entries.find?_of_mem hb.distinct (h.mem_iff.1 he) hself
    · exact (ha.contents e he).agrees_of_essence (ha.contents e he) rfl
  rw [Value.agrees, hsame, Bool.or_true]

/-- **When keys that are the same have the same hash.** If they are spelled alike, they have one and
the same hash, by whatever function. If they are not, no function that tells byte strings apart gives
them the same hash. -/
theorem same_hash_iff_spelledAlike (ha : a.parameters.Ordinary) (hb : b.parameters.Ordinary)
    (h : a.same b = true) (hlength : ∀ c, a.encode = .ok c → c.length < 2 ^ 64) :
    (a.spelledAlike b = true → ∀ (α : Type) (hash : Bytes → α),
        ∃ x, a.hashWith hash = .ok x ∧ b.hashWith hash = .ok x) ∧
      (a.spelledAlike b = false → ∀ (α : Type) (hash : Bytes → α), Function.Injective hash →
        a.hashWith hash ≠ b.hashWith hash) := by
  obtain ⟨c, hc⟩ := exists_encode_of_ordinary ha
  obtain ⟨d, hd⟩ := exists_encode_of_ordinary hb
  refine ⟨fun hs α hash => ?_, fun hs α hash hhash => ?_⟩
  · have hencode := encode_congr ((spelledAlike_iff ha hb h).1 hs)
    exact ⟨hash c, hashWith_of_encode hc, hashWith_of_encode (hencode ▸ hc)⟩
  · refine hashWith_ne_of_encode hc hd (fun hcd => ?_) hhash
    -- from one encoding both keys are read back, and so they say the same
    have hessence := Cbor.essence_eq_of_encode?_eq (ha.map .plain) (hb.map .plain)
      (encode_eq_ok_iff.1 hc) (encode_eq_ok_iff.1 (hcd ▸ hd)) (hlength c hc)
    rw [Value.essence, Value.essence, Value.map.injEq] at hessence
    rw [(spelledAlike_iff ha hb h).2 hessence.2] at hs
    cases hs

/-- A key with a key type and one coordinate. -/
def withCoordinate (x : Value) : CoseKey := ⟨[(.int 1, .int 1), (.int (-2), x)]⟩

theorem ordinary_withCoordinate {x : Value} (h : x.Ordinary) :
    (withCoordinate x).parameters.Ordinary := by
  refine ⟨?_, ?_, ?_, ?_⟩
  · simp [withCoordinate, Entries.Distinct, Entries.labels, Value.int_agrees, Value.sameAsInt,
      Value.wholeNumber?, Value.int?]
  all_goals rw [withCoordinate, List.forall_mem_cons, List.forall_mem_singleton]
  · exact ⟨.int 1, .int (-2)⟩
  · exact ⟨.int 1, .int (-2)⟩
  · exact ⟨.int 1, h⟩

/-- A coordinate in a buffer gives the hash of the byte string; the number one in an array gives
another hash than the boolean there. -/
theorem same_hash_iff_spelledAlike_sorts :
    (∃ x, (withCoordinate (.bytes [7])).hashWith id = .ok x ∧
        (withCoordinate (.buffer [7])).hashWith id = .ok x) ∧
      (withCoordinate (.list [.int 1])).hashWith id
        ≠ (withCoordinate (.list [.bool true])).hashWith id := by
  have hlist : ∀ {x : Value}, x.Ordinary → (Value.list [x]).Ordinary :=
    fun h => .list (List.forall_mem_singleton.2 h)
  constructor
  · refine (same_hash_iff_spelledAlike (ordinary_withCoordinate (.bytes [7]))
      (ordinary_withCoordinate (.buffer [7])) ?_ fun c hc => ?_).1 ?_ _ id
    · decide +kernel
    · cases hc
      decide
    · decide +kernel
  · refine (same_hash_iff_spelledAlike (ordinary_withCoordinate (hlist (.int 1)))
      (ordinary_withCoordinate (hlist (.bool true))) ?_ fun c hc => ?_).2 ?_ _ id
      Function.injective_id
    · decide +kernel
    · cases hc
      decide
    · decide +kernel

/-- **Keys that are the same with different hashes**: the same parameters in another order, and the
same numbers in another spelling, as labels and as values. -/
theorem same_with_other_hash :
    (let a : CoseKey := ⟨[(.int 1, .int 1), (.int 3, .int (-8))]⟩
      let b : CoseKey := ⟨[(.int 3, .int (-8)), (.int 1, .int 1)]⟩
      let c : CoseKey := ⟨[(.bool true, .float ⟨0x3ff0000000000000⟩), (.int 3, .int (-8))]⟩
      (a.same b = true ∧ a.same c = true) ∧
        ∀ (α : Type) (hash : Bytes → α), Function.Injective hash →
          a.hashWith hash ≠ b.hashWith hash ∧ a.hashWith hash ≠ c.hashWith hash) := by
  refine ⟨⟨by decide +kernel, by decide +kernel⟩, fun α hash hhash => ⟨?_, ?_⟩⟩
  · exact hashWith_ne_of_encode rfl rfl (by decide) hhash
  · exact hashWith_ne_of_encode rfl rfl (by decide +kernel) hhash

end CoseKey

end DeviceTrust
