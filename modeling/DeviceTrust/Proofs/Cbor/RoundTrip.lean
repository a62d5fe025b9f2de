import DeviceTrust.Proofs.Cbor.Items

/-!
# Reading back plain values

A plain value (`Plain`) consists of numbers, strings, simple values, arrays, maps, and tags without
a meaning, nested no deeper than a given depth. Its encoding is read back (`read_encode`), up to
what the wire does not carry (`asRead`): which sort of byte string, array or map it was, the name of
a number, the payload of a not-a-number. In a map key and under a tag arrays and maps come back as
those that cannot change.

The induction is on the value; what is nested in it may stand in any place, so the statement is
for readers that freeze and for readers that do not.
-/

set_option autoImplicit false

namespace DeviceTrust

namespace Cbor

/-! ## Plain values -/

/-- **Plain values**, nested at most `depth` deep. An array or map without elements does not count,
and an integer beyond 64 bits counts as a tag. -/
inductive Plain : Nat → Value → Prop
  | null {depth : Nat} : Plain depth .null
  | undefined {depth : Nat} : Plain depth .undefined
  | bool {depth : Nat} (b : Bool) : Plain depth (.bool b)
  | simple {depth : Nat} {code : UInt8} (h : code.toNat < 20 ∨ 32 ≤ code.toNat) :
      Plain depth (.simple code)
  | int {depth : Nat} {n : Int} (h : -2 ^ 64 ≤ n ∧ n < 2 ^ 64) : Plain depth (.int n)
  | bigInt {depth : Nat} (n : Int) : Plain (depth + 1) (.int n)
  | registered {depth : Nat} (r : Registered) : Plain depth (.registered r)
  | float {depth : Nat} (x : Binary64) : Plain depth (.float x)
  | text {depth : Nat} (s : String) : Plain depth (.text s)
  | bytes {depth : Nat} (b : Bytes) : Plain depth (.bytes b)
  | buffer {depth : Nat} (b : Bytes) : Plain depth (.buffer b)
  | noItems {depth : Nat} : Plain depth (.list [])
  | list {depth : Nat} {items : List Value} (h : ∀ x ∈ items, Plain depth x) :
      Plain (depth + 1) (.list items)
  | noFixedItems {depth : Nat} : Plain depth (.tuple [])
  | tuple {depth : Nat} {items : List Value} (h : ∀ x ∈ items, Plain depth x) :
      Plain (depth + 1) (.tuple items)
  | noEntries {depth : Nat} (flavour : MapFlavour) : Plain depth (.map flavour [])
  | map {depth : Nat} (flavour : MapFlavour) {es : Entries} (hk : ∀ e ∈ es, Plain depth e.1)
      (hv : ∀ e ∈ es, Plain depth e.2) : Plain (depth + 1) (.map flavour es)
  | tag {depth number : Nat} {content : Value} (hn : number < 2 ^ 64)
      (hm : hasMeaning number = false) (h : Plain depth content) :
      Plain (depth + 1) (.tag number content)

theorem Plain.mono {depth depth' : Nat} {v : Value} (h : Plain depth v) (hle : depth ≤ depth') :
    Plain depth' v := by
  induction h generalizing depth' with
  | null => exact .null
  | undefined => exact .undefined
  | bool b => exact .bool b
  | simple h => exact .simple h
  | int h => exact .int h
  | registered r => exact .registered r
  | float x => exact .float x
  | text s => exact .text s
  | bytes b => exact .bytes b
  | buffer b => exact .buffer b
  | noItems => exact .noItems
  | noFixedItems => exact .noFixedItems
  | noEntries flavour => exact .noEntries flavour
  | bigInt n =>
      obtain ⟨d, rfl⟩ := Nat.exists_eq_succ_of_ne_zero (show depth' ≠ 0 by omega)
      exact .bigInt n
  | list _ ih =>
      obtain ⟨d, rfl⟩ := Nat.exists_eq_succ_of_ne_zero (show depth' ≠ 0 by omega)
      exact .list fun x hx => ih x hx (by omega)
  | tuple _ ih =>
      obtain ⟨d, rfl⟩ := Nat.exists_eq_succ_of_ne_zero (show depth' ≠ 0 by omega)
      exact .tuple fun x hx => ih x hx (by omega)
  | map flavour _ _ ihk ihv =>
      obtain ⟨d, rfl⟩ := Nat.exists_eq_succ_of_ne_zero (show depth' ≠ 0 by omega)
      exact .map flavour (fun e he => ihk e he (by omega)) fun e he => ihv e he (by omega)
  | tag hn hm _ ih =>
      obtain ⟨d, rfl⟩ := Nat.exists_eq_succ_of_ne_zero (show depth' ≠ 0 by omega)
      exact .tag hn hm (ih (by omega))

theorem registered_fits (r : Registered) : -2 ^ 64 ≤ r.number ∧ r.number < 2 ^ 64 := by
  rcases r with l | a
  · cases l <;> decide
  · cases a <;> decide

theorem Plain.plainNumber {depth : Nat} {v : Value} (h : Plain depth v) :
    Plain depth v.plainNumber := by
  cases v with
  | registered r => exact .int (registered_fits r)
  | _ => exact h

mutual

/-- **A value as it is read back**, where arrays and maps are frozen or not. -/
def asRead : Value → (frozen : Bool) → Value
  | .registered r, _ => .int r.number
  | .buffer b, _ => .bytes b
  | .float x, _ => .float x.withoutPayload
  | .list items, frozen => arrayOf frozen (itemsAsRead items frozen)
  | .tuple items, frozen => arrayOf frozen (itemsAsRead items frozen)
  | .map _ es, frozen => mapOf frozen (entriesAsRead es frozen)
  | .tag number content, frozen => .tag number (asRead content (frozen || freezesContent number))
  | v, _ => v

def itemsAsRead : List Value → (frozen : Bool) → List Value
  | [], _ => []
  | x :: rest, frozen => asRead x frozen :: itemsAsRead rest frozen

def entriesAsRead : Entries → (frozen : Bool) → Entries
  | [], _ => []
  | (k, v) :: rest, frozen => (asRead k true, asRead v frozen) :: entriesAsRead rest frozen

end

theorem itemsAsRead_eq_map (items : List Value) (frozen : Bool) :
    itemsAsRead items frozen = items.map fun x => asRead x frozen := by
  induction items with
  | nil => rfl
  | cons x rest ih => rw [itemsAsRead, ih, List.map_cons]

theorem entriesAsRead_eq_map (es : Entries) (frozen : Bool) :
    entriesAsRead es frozen = es.map fun e => (asRead e.1 true, asRead e.2 frozen) := by
  induction es with
  | nil => rfl
  | cons e rest ih => rw [entriesAsRead, ih, List.map_cons]

/-! ## Encodings of items and entries -/

theorem encode?_of_byteString? {v : Value} {b : Bytes} (h : v.byteString? = some b) :
    encode? v = some (encodeBytes b) := by
  cases v with
  | bytes _ | buffer _ => cases h; rfl
  | _ => cases h

theorem encodeItems?_cons_eq_some {x : Value} {rest : List Value} {b : Bytes}
    (h : encodeItems? (x :: rest) = some b) :
    ∃ bx br, encode? x = some bx ∧ encodeItems? rest = some br ∧ b = bx ++ br := by
  simp only [encodeItems?, Option.bind_eq_bind, Option.bind_eq_some_iff, Option.pure_def,
    Option.some_inj] at h
  obtain ⟨bx, hx, br, hr, rfl⟩ := h
  exact ⟨bx, br, hx, hr, rfl⟩

theorem encodeEntries?_cons_eq_some {k v : Value} {rest : Entries} {b : Bytes}
    (h : encodeEntries? ((k, v) :: rest) = some b) :
    ∃ bk bv br, encode? k = some bk ∧ encode? v = some bv ∧ encodeEntries? rest = some br ∧
      b = bk ++ (bv ++ br) := by
  simp only [encodeEntries?, Option.bind_eq_bind, Option.bind_eq_some_iff, Option.pure_def,
    Option.some_inj] at h
  obtain ⟨bk, hk, bv, hv, br, hr, rfl⟩ := h
  exact ⟨bk, bv, br, hk, hv, hr, List.append_assoc _ _ _⟩

/-- What is read back after one another is not empty, if the reader takes nothing from nothing. -/
theorem Reads.length_pos {α : Type} {reader : Bytes → Option (α × Bytes)} {b : Bytes} {a : α}
    (h : Reads reader b a) (hnil : reader [] = none) : 0 < b.length := by
  cases b with
  | nil =>
      have hempty := h []
      rw [List.append_nil, hnil] at hempty
      cases hempty
  | cons x b => exact Nat.succ_pos _

/-- **Items are read back** if each of them is; and there are at least as many bytes as items. -/
theorem reads_items {item : Reader} {frozen : Bool} (hnil : item frozen [] = none)
    {items : List Value} (h : ∀ x ∈ items, ∀ b, encode? x = some b → b.length < 2 ^ 64 →
      Reads (item frozen) b (asRead x frozen)) :
    ∀ {b : Bytes}, encodeItems? items = some b → b.length < 2 ^ 64 →
      items.length ≤ b.length ∧
        Reads (readItems (item frozen) items.length) b (itemsAsRead items frozen) := by
  induction items with
  | nil =>
      intro b hb _
      cases hb
      exact ⟨Nat.le_refl _, fun rest => rfl⟩
  | cons x items ih =>
      intro b hb hlength
      obtain ⟨bx, br, hx, hr, rfl⟩ := encodeItems?_cons_eq_some hb
      rw [List.length_append] at hlength
      have hfirst := h x (by simp) bx hx (by omega)
      obtain ⟨hle, hothers⟩ := ih (fun y hy => h y (by simp [hy])) hr (by omega)
      -- the first item takes at least one byte, so the count stays within the length
      have hpos := hfirst.length_pos hnil
      refine ⟨by simp only [List.length_cons, List.length_append]; omega, fun rest => ?_⟩
      rw [List.append_assoc, List.length_cons, readItems, hfirst (br ++ rest)]
      show (readItems (item frozen) items.length (br ++ rest)).bind _ = _
      rw [hothers rest]
      rfl

/-- **Entries are read back** if each label and each content is. -/
theorem reads_entries {item : Reader} {frozen : Bool} (hnil : item true [] = none)
    {es : Entries} (hk : ∀ e ∈ es, ∀ b, encode? e.1 = some b → b.length < 2 ^ 64 →
      Reads (item true) b (asRead e.1 true))
    (hv : ∀ e ∈ es, ∀ b, encode? e.2 = some b → b.length < 2 ^ 64 →
      Reads (item frozen) b (asRead e.2 frozen)) :
    ∀ {b : Bytes}, encodeEntries? es = some b → b.length < 2 ^ 64 →
      es.length ≤ b.length ∧
        Reads (readEntries (readEntry item frozen) es.length) b (entriesAsRead es frozen) := by
  induction es with
  | nil =>
      intro b hb _
      cases hb
      exact ⟨Nat.le_refl _, fun rest => rfl⟩
  | cons e es ih =>
      intro b hb hlength
      obtain ⟨k, v⟩ := e
      obtain ⟨bk, bv, br, hbk, hbv, hr, rfl⟩ := encodeEntries?_cons_eq_some hb
      rw [List.length_append, List.length_append] at hlength
      have hlabel := hk (k, v) (by simp) bk hbk (by omega)
      have hcontent := hv (k, v) (by simp) bv hbv (by omega)
      obtain ⟨hle, hothers⟩ := ih (fun e he => hk e (by simp [he])) (fun e he => hv e (by simp [he]))
        hr (by omega)
      -- of an entry the label alone takes at least one byte
      have hpos := hlabel.length_pos hnil
      refine ⟨by simp only [List.length_cons, List.length_append]; omega, fun rest => ?_⟩
      have hentry : readEntry item frozen (bk ++ (bv ++ (br ++ rest)))
          = some ((asRead k true, asRead v frozen), br ++ rest) := by
        rw [readEntry, hlabel (bv ++ (br ++ rest))]
        show (item frozen (bv ++ (br ++ rest))).bind _ = _
        rw [hcontent (br ++ rest)]
        rfl
      rw [List.append_assoc, List.append_assoc, List.length_cons, readEntries, hentry]
      show (readEntries (readEntry item frozen) es.length (br ++ rest)).bind _ = _
      rw [hothers rest]
      rfl

/-! ## Values -/

/-- What is read with any reader for what is nested is read at any depth. -/
theorem reads_of_readItem {depth : Nat} {frozen : Bool} {b : Bytes} {v : Value}
    (h : ∀ inner, Reads (readItem inner frozen) b v) : Reads (read depth frozen) b v := by
  cases depth with
  | zero => exact h none
  | succ depth => exact h (some (read depth))

theorem read_nil (depth : Nat) (frozen : Bool) : read depth frozen [] = none := by
  cases depth <;> rfl

theorem reads_array {depth : Nat} {frozen : Bool} {items : List Value} {b : Bytes}
    (h : ∀ x ∈ items, ∀ frozen b, encode? x = some b → b.length < 2 ^ 64 →
      Reads (read depth frozen) b (asRead x frozen))
    (hb : (encodeItems? items).map (head 4 items.length ++ ·) = some b)
    (hlength : b.length < 2 ^ 64) :
    Reads (read (depth + 1) frozen) b (arrayOf frozen (itemsAsRead items frozen)) := by
  obtain ⟨bs, hbs, rfl⟩ := Option.map_eq_some_iff.1 hb
  rw [List.length_append] at hlength
  cases items with
  | nil =>
      cases hbs
      rw [List.append_nil]
      exact readItem_noItems _ frozen
  | cons x rest =>
      obtain ⟨hle, hreads⟩ := reads_items (read_nil depth frozen) (fun y hy => h y hy frozen) hbs
        (by omega)
      have hcount : (itemsAsRead (x :: rest) frozen).length = (x :: rest).length := by
        rw [itemsAsRead_eq_map, List.length_map]
      rw [← hcount] at hle hreads ⊢
      exact readItem_items frozen (by rw [hcount]; exact Nat.succ_pos _) hle (by omega) hreads

theorem reads_map {depth : Nat} {frozen : Bool} {es : Entries} {b : Bytes}
    (hk : ∀ e ∈ es, ∀ frozen b, encode? e.1 = some b → b.length < 2 ^ 64 →
      Reads (read depth frozen) b (asRead e.1 frozen))
    (hv : ∀ e ∈ es, ∀ frozen b, encode? e.2 = some b → b.length < 2 ^ 64 →
      Reads (read depth frozen) b (asRead e.2 frozen))
    (hb : (encodeEntries? es).map (head 5 es.length ++ ·) = some b)
    (hlength : b.length < 2 ^ 64) :
    Reads (read (depth + 1) frozen) b (mapOf frozen (entriesAsRead es frozen)) := by
  obtain ⟨bs, hbs, rfl⟩ := Option.map_eq_some_iff.1 hb
  rw [List.length_append] at hlength
  cases es with
  | nil =>
      cases hbs
      rw [List.append_nil]
      exact readItem_noEntries _ frozen
  | cons e rest =>
      obtain ⟨hle, hreads⟩ := reads_entries (read_nil depth true) (fun e he => hk e he true)
        (fun e he => hv e he frozen) hbs (by omega)
      have hcount : (entriesAsRead (e :: rest) frozen).length = (e :: rest).length := by
        rw [entriesAsRead_eq_map, List.length_map]
      rw [← hcount] at hle hreads ⊢
      exact readItem_entries frozen (by rw [hcount]; exact Nat.succ_pos _) hle (by omega) hreads

/-- **Plain values are read back**, in whatever place, by a reader that nests as deep. -/
theorem read_encode {depth : Nat} {v : Value} (hv : Plain depth v) :
    ∀ (frozen : Bool) (b : Bytes), encode? v = some b → b.length < 2 ^ 64 →
      Reads (read depth frozen) b (asRead v frozen) := by
  -- on the value: every part of it is read back in whatever place it stands
  induction hv with
  | null | undefined =>
      intro frozen b hb _
      cases hb
      exact reads_of_readItem fun inner rest => rfl
  | bool value =>
      intro frozen b hb _
      cases value <;> cases hb <;> exact reads_of_readItem fun inner rest => rfl
  | simple hcode =>
      intro frozen b hb _
      cases hb
      exact reads_of_readItem fun inner => readItem_simple inner frozen hcode
  | int hn =>
      intro frozen b hb _
      cases hb
      exact reads_of_readItem fun inner => readItem_int inner frozen hn
  | bigInt n =>
      intro frozen b hb hlength
      cases hb
      -- the magnitude is a byte string under a tag, one level further in
      exact readItem_bigInt frozen hlength fun frozen b hb =>
        reads_of_readItem fun inner => readItem_bytes inner frozen hb
  | registered r =>
      intro frozen b hb _
      cases hb
      exact reads_of_readItem fun inner => readItem_int inner frozen (registered_fits r)
  | float x =>
      intro frozen b hb _
      cases hb
      exact reads_of_readItem fun inner => readItem_float inner frozen x
  | text s =>
      intro frozen b hb hlength
      cases hb
      refine reads_of_readItem fun inner => readItem_text inner frozen ?_
      rw [encodeText, List.length_append] at hlength
      omega
  | bytes s | buffer s =>
      intro frozen b hb hlength
      cases hb
      refine reads_of_readItem fun inner => readItem_bytes inner frozen ?_
      rw [encodeBytes, List.length_append] at hlength
      omega
  | noItems | noFixedItems =>
      intro frozen b hb _
      cases hb
      exact reads_of_readItem fun inner => readItem_noItems inner frozen
  | noEntries flavour =>
      intro frozen b hb _
      cases hb
      exact reads_of_readItem fun inner => readItem_noEntries inner frozen
  | list _ ih | tuple _ ih =>
      intro frozen b hb hlength
      exact reads_array ih hb hlength
  | map flavour _ _ ihk ihv =>
      intro frozen b hb hlength
      exact reads_map ihk ihv hb hlength
  | @tag depth number content hn hm _ ih =>
      intro frozen b hb hlength
      obtain ⟨bs, hbs, rfl⟩ := Option.map_eq_some_iff.1 hb
      rw [List.length_append] at hlength
      exact readItem_tag frozen hn (ih _ bs hbs (by omega))
        (interpret?_of_not_hasMeaning hm frozen _)

/-- **Decoding undoes encoding**, for plain values within the nesting limit. -/
theorem decode?_encode {v : Value} (hv : Plain depthLimit v) {b : Bytes}
    (hb : encode? v = some b) (hlength : b.length < 2 ^ 64) :
    decode? b = some (asRead v false) := by
  have hread := read_encode hv false b hb hlength []
  rw [List.append_nil] at hread
  rw [decode?, hread]
  rfl

/-! ## Lengths -/

theorem length_encodeInt_le {n : Int} (h : -2 ^ 64 ≤ n ∧ n < 2 ^ 64) :
    (encodeInt n).length ≤ 9 := by
  obtain ⟨hlow, hhigh⟩ := h
  cases n with
  | ofNat n =>
      rw [encodeInt, if_pos (Int.ofNat_lt.1 hhigh)]
      exact length_head_le 0 n
  | negSucc n =>
      rw [encodeInt, if_pos (show n < 0x10000000000000000 by omega)]
      exact length_head_le 1 n

theorem length_encodeEntries?_le {es : Entries} {bound : Nat}
    (h : ∀ e ∈ es, ∀ bk bv, encode? e.1 = some bk → encode? e.2 = some bv →
      bk.length + bv.length ≤ bound) :
    ∀ {b : Bytes}, encodeEntries? es = some b → b.length ≤ bound * es.length := by
  induction es with
  | nil =>
      intro b hb
      cases hb
      exact Nat.zero_le _
  | cons e rest ih =>
      intro b hb
      obtain ⟨k, v⟩ := e
      obtain ⟨bk, bv, br, hbk, hbv, hr, rfl⟩ := encodeEntries?_cons_eq_some hb
      have hfirst := h (k, v) (by simp) bk bv hbk hbv
      have hothers := ih (fun e he => h e (by simp [he])) hr
      rw [List.length_append, List.length_append, List.length_cons, Nat.mul_succ]
      omega

/-! ## Existence -/

theorem exists_encodeItems? {items : List Value} (h : ∀ x ∈ items, ∃ b, encode? x = some b) :
    ∃ b, encodeItems? items = some b := by
  induction items with
  | nil => exact ⟨[], rfl⟩
  | cons x rest ih =>
      obtain ⟨bx, hx⟩ := h x (by simp)
      obtain ⟨br, hr⟩ := ih fun y hy => h y (by simp [hy])
      exact ⟨bx ++ br, by rw [encodeItems?, hx, hr]; rfl⟩

theorem exists_encodeEntries? {es : Entries} (hk : ∀ e ∈ es, ∃ b, encode? e.1 = some b)
    (hv : ∀ e ∈ es, ∃ b, encode? e.2 = some b) : ∃ b, encodeEntries? es = some b := by
  induction es with
  | nil => exact ⟨[], rfl⟩
  | cons e rest ih =>
      obtain ⟨bk, hbk⟩ := hk e (by simp)
      obtain ⟨bv, hbv⟩ := hv e (by simp)
      obtain ⟨br, hr⟩ := ih (fun e he => hk e (by simp [he])) fun e he => hv e (by simp [he])
      exact ⟨bk ++ bv ++ br, by rw [encodeEntries?, hbk, hbv, hr]; rfl⟩

/-- **Every plain value has an encoding**, however deep it is nested. -/
theorem exists_encode? {depth : Nat} {v : Value} (hv : Plain depth v) :
    ∃ b, encode? v = some b := by
  induction hv with
  | list _ ih | tuple _ ih =>
      obtain ⟨b, hb⟩ := exists_encodeItems? ih
      exact ⟨_, by rw [encode?, hb]; rfl⟩
  | map _ _ _ ihk ihv =>
      obtain ⟨b, hb⟩ := exists_encodeEntries? ihk ihv
      exact ⟨_, by rw [encode?, hb]; rfl⟩
  | tag _ _ _ ih =>
      obtain ⟨b, hb⟩ := ih
      exact ⟨_, by rw [encode?, hb]; rfl⟩
  | _ => exact ⟨_, rfl⟩

end Cbor

end DeviceTrust
