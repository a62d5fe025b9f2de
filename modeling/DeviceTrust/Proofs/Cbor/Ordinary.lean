import DeviceTrust.Proofs.Cbor.Essence

/-!
# Ordinary values

An ordinary value is null, a boolean, an integer, a floating-point number that is one, a text or a
byte string, or an array or map of such values (`Value.Ordinary`). Agreement is reliable among these:
two of them that say the same agree (`Value.Ordinary.agrees_of_essence`), and so an ordinary value
agrees with itself and with what is read back of it (`Cbor.agrees_asRead`). What a value says is also
all that its encoding depends on (`Cbor.encode?_essence`).

Maps are compared by looking one up in the other, label by label (`Value.includes_iff`).
-/

set_option autoImplicit false

namespace DeviceTrust

theorem Binary64.withoutPayload_of_isNaN_eq_false {x : Binary64} (h : x.isNaN = false) :
    x.withoutPayload = x := by
  rw [withoutPayload, h]
  rfl

theorem map_eq_map_iff_forall₂ {α β : Type} {f : α → β} {xs ys : List α} :
    xs.map f = ys.map f ↔ List.Forall₂ (fun x y => f x = f y) xs ys := by
  rw [← List.forall₂_eq_eq_eq, List.forall₂_map_left_iff, List.forall₂_map_right_iff]

theorem forall₂_imp_of_mem {α β : Type} {R S : α → β → Prop} {xs : List α} {ys : List β}
    (h : List.Forall₂ R xs ys) (hRS : ∀ x ∈ xs, ∀ y ∈ ys, R x y → S x y) :
    List.Forall₂ S xs ys := by
  induction h with
  | nil => exact .nil
  | cons hfirst _ ih =>
      refine .cons (hRS _ (by simp) _ (by simp) hfirst) (ih fun x hx y hy => ?_)
      exact hRS x (by simp [hx]) y (by simp [hy])

theorem exists_mem_of_forall₂ {α β : Type} {R : α → β → Prop} {xs : List α} {ys : List β}
    (h : List.Forall₂ R xs ys) {x : α} (hx : x ∈ xs) : ∃ y ∈ ys, R x y := by
  induction h with
  | nil => cases hx
  | cons hfirst _ ih =>
      rcases List.mem_cons.1 hx with rfl | hx
      · exact ⟨_, List.mem_cons_self, hfirst⟩
      · obtain ⟨y, hy, hrelated⟩ := ih hx
        exact ⟨y, List.mem_cons_of_mem _ hy, hrelated⟩

namespace Value

/-! ## Agreement of arrays and maps -/

theorem sameItems_iff {xs ys : List Value} :
    sameItems xs ys = true ↔ List.Forall₂ (fun x y => x.agrees y = true) xs ys := by
  induction xs generalizing ys with
  | nil => cases ys <;> simp [sameItems]
  | cons x xs ih =>
      cases ys with
      | nil => simp [sameItems]
      | cons y ys =>
          rw [sameItems, Bool.and_eq_true, ih, List.forall₂_cons]
          rfl

theorem find?_agrees_eq (fs : Entries) (label : Value) :
    (List.find? (fun f => label.agrees f.1) fs).map (·.2) = Entries.find? fs label := by
  induction fs with
  | nil => rfl
  | cons f rest ih =>
      rw [Entries.find?_cons, List.find?_cons]
      by_cases h : label.agrees f.1 = true
      · simp [h]
      · simp [h, ih]

/-- **Entries are included in others** if under each of their labels something is found that
agrees. -/
theorem includes_iff {fs es : Entries} :
    includes fs es = true ↔
      ∀ e ∈ es, ∃ v, Entries.find? fs e.1 = some v ∧ e.2.agrees v = true := by
  induction es with
  | nil => simp [includes]
  | cons e rest ih =>
      obtain ⟨label, content⟩ := e
      rw [includes, Bool.and_eq_true, ih, List.forall_mem_cons, ← find?_agrees_eq fs label]
      refine and_congr_left fun _ => ?_
      show Option.any (fun f => content.agrees f.2) (List.find? (fun f => label.agrees f.1) fs) = true
        ↔ _
      cases List.find? (fun f => label.agrees f.1) fs <;> simp

theorem find?_plainNumber (es : Entries) (label : Value) :
    Entries.find? es label.plainNumber = Entries.find? es label := by
  have hleft : ∀ u : Value, label.plainNumber.agrees u = label.agrees u := by
    intro u
    rw [← agrees_plainNumber label.plainNumber u, plainNumber_plainNumber, agrees_plainNumber]
  induction es with
  | nil => rfl
  | cons e rest ih => rw [Entries.find?_cons, Entries.find?_cons, hleft, ih]

/-! ## Ordinary values -/

/-- **An ordinary value.** No map in it has a repeated label, and its labels have no parts. -/
inductive Ordinary : Value → Prop
  | null : Ordinary .null
  | bool (b : Bool) : Ordinary (.bool b)
  | int (n : Int) : Ordinary (.int n)
  | registered (r : Registered) : Ordinary (.registered r)
  | float {x : Binary64} (h : x.isNaN = false) : Ordinary (.float x)
  | text (s : String) : Ordinary (.text s)
  | bytes (b : Bytes) : Ordinary (.bytes b)
  | buffer (b : Bytes) : Ordinary (.buffer b)
  | list {items : List Value} (h : ∀ x ∈ items, Ordinary x) : Ordinary (.list items)
  | map (flavour : MapFlavour) {es : Entries} (hd : es.Distinct) (hl : ∀ e ∈ es, IsScalar e.1)
      (hk : ∀ e ∈ es, Ordinary e.1) (hv : ∀ e ∈ es, Ordinary e.2) : Ordinary (.map flavour es)

end Value

/-- **The entries of an ordinary map.** -/
structure Entries.Ordinary (es : Entries) : Prop where
  distinct : es.Distinct
  scalars : ∀ e ∈ es, IsScalar e.1
  labels : ∀ e ∈ es, e.1.Ordinary
  contents : ∀ e ∈ es, e.2.Ordinary

theorem Entries.Ordinary.map {es : Entries} (h : es.Ordinary) (flavour : MapFlavour) :
    (Value.map flavour es).Ordinary :=
  .map flavour h.distinct h.scalars h.labels h.contents

namespace Value

variable {v w : Value}

theorem Ordinary.entries {flavour : MapFlavour} {es : Entries} (h : Ordinary (.map flavour es)) :
    es.Ordinary := by
  cases h with
  | map _ hd hl hk hv => exact ⟨hd, hl, hk, hv⟩

/-! ### Labels -/

/-- A label of an ordinary map says no more than the plain label. -/
theorem Ordinary.essence_of_isScalar (h : v.Ordinary) (hs : IsScalar v) :
    v.essence = v.plainNumber := by
  cases hs with
  | float x =>
      cases h with
      | float hx => exact congrArg Value.float (Binary64.withoutPayload_of_isNaN_eq_false hx)
  | _ => rfl

theorem Ordinary.asRead_of_isScalar (h : v.Ordinary) (hs : IsScalar v) (frozen : Bool) :
    Cbor.asRead v frozen = v.plainNumber := by
  cases hs with
  | float x =>
      cases h with
      | float hx => exact congrArg Value.float (Binary64.withoutPayload_of_isNaN_eq_false hx)
  | _ => rfl

theorem Ordinary.plainNumber (h : v.Ordinary) : v.plainNumber.Ordinary := by
  cases h with
  | registered r => exact .int r.number
  | null => exact .null
  | bool b => exact .bool b
  | int n => exact .int n
  | float hx => exact .float hx
  | text s => exact .text s
  | bytes b => exact .bytes b
  | buffer b => exact .buffer b
  | list h => exact .list h
  | map flavour hd hl hk hv => exact .map flavour hd hl hk hv

/-! ### Agreement -/

/-- What is the integer that a value says, is the same integer. -/
theorem sameAsInt_of_int? {n : Int} (h : v.int? = some n) : v.sameAsInt n = true := by
  cases v with
  | int m | registered m =>
      cases h
      exact beq_self_eq_true _
  | _ => cases h

theorem int?_essence (v : Value) : v.essence.int? = v.int? := by
  cases v <;> rfl

theorem byteString?_essence (v : Value) : v.essence.byteString? = v.byteString? := by
  cases v <;> rfl

/-- A map is the same as one of the same length in which everything is found that agrees. -/
theorem same_map_iff {flavour flavour' : MapFlavour} {es fs : Entries} :
    same (.map flavour es) (.map flavour' fs) = true ↔
      es.length = fs.length ∧
        ∀ e ∈ es, ∃ v, Entries.find? fs e.1 = some v ∧ e.2.agrees v = true := by
  rw [same, Bool.and_eq_true, beq_iff_eq, includes_iff]

end Value

namespace Entries

/-- **Entries that correspond are found**: under the same plain labels, contents that agree. -/
theorem exists_find?_of_forall₂ {es fs : Entries} (hd : fs.Distinct)
    (hself : ∀ f ∈ fs, f.1.agrees f.1 = true)
    (h : List.Forall₂ (fun e f => e.1.plainNumber = f.1.plainNumber ∧ e.2.agrees f.2 = true) es fs) :
    ∀ e ∈ es, ∃ v, find? fs e.1 = some v ∧ e.2.agrees v = true := by
  intro e he
  obtain ⟨f, hf, hlabel, hcontent⟩ := exists_mem_of_forall₂ h he
  refine ⟨f.2, ?_, hcontent⟩
  rw [← Value.find?_plainNumber, hlabel, Value.find?_plainNumber]
  exact find?_of_mem hd hf (hself f hf)

end Entries

namespace Value

variable {v w : Value}

theorem Ordinary.agrees_self_of_isScalar (h : v.Ordinary) (hs : IsScalar v) :
    v.agrees v = true := by
  cases hs with
  | float x =>
      cases h with
      | float hx => simp [agrees, same, sameAsFloat, Binary64.equals, hx]
  | bool b | int n | registered n => exact (agrees_of_wholeNumber? rfl _).trans (beq_self_eq_true _)
  | null | text s | bytes b => simp [agrees, same, byteString?]

/-- **Ordinary values that say the same agree.** -/
theorem Ordinary.agrees_of_essence (hv : v.Ordinary) (hw : w.Ordinary)
    (h : v.essence = w.essence) : v.agrees w = true := by
  induction hv generalizing w with
  | null =>
      cases hw with
      | null => exact Ordinary.null.agrees_self_of_isScalar .null
      | _ => cases h
  | bool b =>
      cases hw with
      | bool _ =>
          cases h
          exact (Ordinary.bool b).agrees_self_of_isScalar (.bool b)
      | _ => cases h
  | int n | registered n =>
      have hint := congrArg int? h
      rw [int?_essence, int?_essence] at hint
      exact (agrees_of_wholeNumber? rfl w).trans (sameAsInt_of_int? hint.symm)
  | @float x hx =>
      cases hw with
      | float hy =>
          rw [essence, essence, Binary64.withoutPayload_of_isNaN_eq_false hx,
            Binary64.withoutPayload_of_isNaN_eq_false hy] at h
          cases h
          exact (Ordinary.float hx).agrees_self_of_isScalar (.float x)
      | _ => cases h
  | text s =>
      cases hw with
      | text _ =>
          cases h
          exact (Ordinary.text s).agrees_self_of_isScalar (.text s)
      | _ => cases h
  | bytes b | buffer b =>
      have hbytes := congrArg byteString? h
      rw [byteString?_essence, byteString?_essence] at hbytes
      rw [agrees, same, ← hbytes]
      simp [byteString?]
  | @list items _ ih =>
      cases hw with
      | @list items' hw =>
          rw [essence, essence, itemsEssence_eq_map, itemsEssence_eq_map, list.injEq] at h
          have hitems : sameItems items items' = true :=
            sameItems_iff.2 (forall₂_imp_of_mem (map_eq_map_iff_forall₂.1 h)
              fun x hx y hy hxy => ih x hx (hw y hy) hxy)
          rw [agrees, same, hitems, Bool.or_true]
      | _ => cases h
  | @map flavour es hd hl hk _ _ ih =>
      cases hw with
      | @map flavour' fs hd' hl' hk' hv' =>
          rw [essence, essence, entriesEssence_eq_map, entriesEssence_eq_map, map.injEq] at h
          -- under the same plain labels stand contents that agree
          have hentries : List.Forall₂ (fun e f : Value × Value =>
              e.1.plainNumber = f.1.plainNumber ∧ e.2.agrees f.2 = true) es fs := by
            refine forall₂_imp_of_mem (map_eq_map_iff_forall₂.1 h.2) fun e he f hf hef => ?_
            rw [Prod.mk.injEq, (hk e he).essence_of_isScalar (hl e he),
              (hk' f hf).essence_of_isScalar (hl' f hf)] at hef
            exact ⟨hef.1, ih e he (hv' f hf) hef.2⟩
          have hself : ∀ f ∈ fs, f.1.agrees f.1 = true := fun f hf =>
            (hk' f hf).agrees_self_of_isScalar (hl' f hf)
          have hsame : same (.map flavour es) (.map flavour' fs) = true :=
            same_map_iff.2 ⟨hentries.length_eq, Entries.exists_find?_of_forall₂ hd' hself hentries⟩
          rw [agrees, hsame, Bool.or_true]
      | _ => cases h

end Value

namespace Cbor

/-! ## Encodings -/

theorem encodeFloat_withoutPayload (x : Binary64) : encodeFloat x.withoutPayload = encodeFloat x := by
  by_cases h : x.isNaN = true
  · have hmeaning : ∀ {y : Binary64}, y.isNaN = true → y.meaning = .notANumber := by
      intro y hy
      simp only [Binary64.isNaN, Bool.and_eq_true, beq_iff_eq, bne_iff_ne, ne_eq] at hy
      simp [Binary64.meaning, hy.1, hy.2]
    have hwithout : x.withoutPayload.isNaN = true := by
      rw [Binary64.withoutPayload, if_pos h]
      rfl
    rw [encodeFloat, encodeFloat, hmeaning h, hmeaning hwithout]
  · rw [Binary64.withoutPayload_of_isNaN_eq_false (Bool.eq_false_iff.2 h)]

mutual

/-- **What is written of a value is what it says.** -/
theorem encode?_essence (v : Value) : encode? v.essence = encode? v := by
  cases v with
  | float x => exact congrArg some (encodeFloat_withoutPayload x)
  | list items | tuple items =>
      rw [Value.essence, encode?, encode?, encodeItems?_essence, Value.itemsEssence_eq_map,
        List.length_map]
  | map flavour es =>
      rw [Value.essence, encode?, encode?, encodeEntries?_essence, Value.entriesEssence_eq_map,
        List.length_map]
  | tag number content => rw [Value.essence, encode?, encode?, encode?_essence]
  | _ => rfl

theorem encodeItems?_essence (items : List Value) :
    encodeItems? (Value.itemsEssence items) = encodeItems? items := by
  cases items with
  | nil => rfl
  | cons x rest =>
      rw [Value.itemsEssence, encodeItems?, encodeItems?, encode?_essence, encodeItems?_essence]

theorem encodeEntries?_essence (es : Entries) :
    encodeEntries? (Value.entriesEssence es) = encodeEntries? es := by
  cases es with
  | nil => rfl
  | cons e rest =>
      obtain ⟨label, content⟩ := e
      rw [Value.entriesEssence, encodeEntries?, encodeEntries?, encode?_essence, encode?_essence,
        encodeEntries?_essence]

end

theorem encode?_congr {v w : Value} (h : v.essence = w.essence) : encode? v = encode? w := by
  rw [← encode?_essence v, h, encode?_essence]

/-! ## Reading back -/

/-- Items of an array that are plain at some depth each are plain at one depth. -/
theorem exists_plain_forall {α : Type} {f : α → Value} {xs : List α}
    (h : ∀ x ∈ xs, ∃ depth, Plain depth (f x)) : ∃ depth, ∀ x ∈ xs, Plain depth (f x) := by
  induction xs with
  | nil => exact ⟨0, by simp⟩
  | cons x rest ih =>
      obtain ⟨d, hd⟩ := h x (by simp)
      obtain ⟨d', hd'⟩ := ih fun y hy => h y (by simp [hy])
      refine ⟨max d d', fun y hy => ?_⟩
      rcases List.mem_cons.1 hy with rfl | hy
      · exact hd.mono (Nat.le_max_left _ _)
      · exact (hd' y hy).mono (Nat.le_max_right _ _)

/-- **Ordinary values are plain**, at some depth. -/
theorem exists_plain {v : Value} (h : v.Ordinary) : ∃ depth, Plain depth v := by
  induction h with
  | null => exact ⟨0, .null⟩
  | bool b => exact ⟨0, .bool b⟩
  | int n => exact ⟨1, .bigInt n⟩
  | registered r => exact ⟨0, .registered r⟩
  | float _ => exact ⟨0, .float _⟩
  | text s => exact ⟨0, .text s⟩
  | bytes b => exact ⟨0, .bytes b⟩
  | buffer b => exact ⟨0, .buffer b⟩
  | list _ ih =>
      obtain ⟨depth, hitems⟩ := exists_plain_forall (f := id) ih
      exact ⟨depth + 1, .list hitems⟩
  | map flavour _ _ _ _ ihk ihv =>
      obtain ⟨d, hk⟩ := exists_plain_forall ihk
      obtain ⟨d', hv⟩ := exists_plain_forall ihv
      exact ⟨max d d' + 1, .map flavour (fun e he => (hk e he).mono (Nat.le_max_left _ _))
        fun e he => (hv e he).mono (Nat.le_max_right _ _)⟩

/-- The entries of an ordinary map come back with the plain labels, in order. -/
theorem asRead_map_of_ordinary {es : Entries} (h : es.Ordinary) (flavour : MapFlavour) :
    asRead (.map flavour es) false
      = .map .plain (es.map fun e => (e.1.plainNumber, asRead e.2 false)) := by
  have hentries : entriesAsRead es false = es.map fun e => (e.1.plainNumber, asRead e.2 false) := by
    rw [entriesAsRead_eq_map]
    refine List.map_congr_left fun e he => Prod.ext ?_ rfl
    exact (h.labels e he).asRead_of_isScalar (h.scalars e he) true
  have hd : (entriesAsRead es false).Distinct := by
    refine h.distinct.of_labels ?_
    rw [hentries, Entries.labels, Entries.labels, List.map_map, List.map_map]
    rfl
  rw [asRead, mapOf, Entries.ofList_eq_self hd, hentries]
  rfl

/-- **What is read back of an ordinary value is ordinary, and says the same.** -/
theorem asRead_ordinary {v : Value} (h : v.Ordinary) :
    (asRead v false).Ordinary ∧ (asRead v false).essence = v.essence := by
  induction h with
  | null => exact ⟨.null, rfl⟩
  | bool b => exact ⟨.bool b, rfl⟩
  | int n => exact ⟨.int n, rfl⟩
  | registered r => exact ⟨.int r.number, rfl⟩
  | @float x hx =>
      rw [asRead, Binary64.withoutPayload_of_isNaN_eq_false hx]
      exact ⟨.float hx, rfl⟩
  | text s => exact ⟨.text s, rfl⟩
  | bytes b | buffer b => exact ⟨.bytes b, rfl⟩
  | @list items _ ih =>
      have hread : asRead (.list items) false = .list (items.map fun x => asRead x false) :=
        congrArg Value.list (itemsAsRead_eq_map items false)
      rw [hread, Value.essence, Value.essence, Value.itemsEssence_eq_map,
        Value.itemsEssence_eq_map, List.map_map]
      refine ⟨.list (List.forall_mem_map.2 fun x hx => (ih x hx).1), congrArg Value.list ?_⟩
      exact List.map_congr_left fun x hx => (ih x hx).2
  | @map flavour es hd hl hk hv _ ih =>
      rw [asRead_map_of_ordinary ⟨hd, hl, hk, hv⟩, Value.essence, Value.essence,
        Value.entriesEssence_eq_map, Value.entriesEssence_eq_map, List.map_map]
      refine ⟨.map .plain ?_ ?_ ?_ ?_, congrArg (Value.map .plain) ?_⟩
      · refine hd.of_labels ?_
        rw [Entries.labels, Entries.labels, List.map_map, List.map_map]
        rfl
      · exact List.forall_mem_map.2 fun e he => (hl e he).plainNumber
      · exact List.forall_mem_map.2 fun e he => (hk e he).plainNumber
      · exact List.forall_mem_map.2 fun e he => (ih e he).1
      · refine List.map_congr_left fun e he => Prod.ext ?_ (ih e he).2
        -- a plain label says what the label says
        show e.1.plainNumber.essence = e.1.essence
        rw [(hk e he).plainNumber.essence_of_isScalar (hl e he).plainNumber,
          (hk e he).essence_of_isScalar (hl e he), Value.plainNumber_plainNumber]

/-- **An ordinary value agrees with what is read back of it**, in both directions. -/
theorem agrees_asRead {v : Value} (h : v.Ordinary) :
    (asRead v false).agrees v = true ∧ v.agrees (asRead v false) = true := by
  obtain ⟨hordinary, hessence⟩ := asRead_ordinary h
  exact ⟨hordinary.agrees_of_essence h hessence, h.agrees_of_essence hordinary hessence.symm⟩

/-- **Two ordinary values with the same encoding say the same.** -/
theorem essence_eq_of_encode?_eq {v w : Value} (hv : v.Ordinary) (hw : w.Ordinary) {b : Bytes}
    (hbv : encode? v = some b) (hbw : encode? w = some b) (hlength : b.length < 2 ^ 64) :
    v.essence = w.essence := by
  obtain ⟨d, hpv⟩ := exists_plain hv
  obtain ⟨d', hpw⟩ := exists_plain hw
  -- one reader that nests deep enough for both reads both back
  have hread := read_encode (hpv.mono (Nat.le_max_left d d')) false b hbv hlength []
  rw [read_encode (hpw.mono (Nat.le_max_right d d')) false b hbw hlength []] at hread
  have hsame : asRead w false = asRead v false := congrArg Prod.fst (Option.some.inj hread)
  rw [← (asRead_ordinary hv).2, ← (asRead_ordinary hw).2, hsame]

end Cbor

end DeviceTrust
