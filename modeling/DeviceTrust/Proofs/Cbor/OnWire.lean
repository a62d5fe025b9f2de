import DeviceTrust.Bytes.Lemmas
import DeviceTrust.Cbor.Decode
import DeviceTrust.Proofs.Cbor.Entries

/-!
# What a reader can give

Not every value can come out of bytes. A reader gives the items of CBOR and the objects that tags
stand for, never a buffer, a structured key, a signed message or a key object, however deep inside
(`onWire_decode?`). So what stands behind untrusted bytes was not put together by hand.

What one item can be is said once (`Item`, `readItem_gives`). What holds of every value that is read
follows from it by induction on the depth of the reader (`read_gives`).
-/

set_option autoImplicit false

namespace DeviceTrust.Cbor

/-- **The values that bytes can stand for.** The elements of a set are not looked at. -/
inductive OnWire : Value → Prop
  | null : OnWire .null
  | undefined : OnWire .undefined
  | bool (b : Bool) : OnWire (.bool b)
  | simple (code : UInt8) : OnWire (.simple code)
  | int (n : Int) : OnWire (.int n)
  | float (x : Binary64) : OnWire (.float x)
  | text (s : String) : OnWire (.text s)
  | bytes (b : Bytes) : OnWire (.bytes b)
  | object (o : TaggedObject) : OnWire (.object o)
  | set (frozen : Bool) (elements : List Value) : OnWire (.set frozen elements)
  | tag (number : Nat) {content : Value} (h : OnWire content) : OnWire (.tag number content)
  | list {items : List Value} (h : ∀ x ∈ items, OnWire x) : OnWire (.list items)
  | tuple {items : List Value} (h : ∀ x ∈ items, OnWire x) : OnWire (.tuple items)
  | map (flavour : MapFlavour) {es : Entries} (hk : ∀ e ∈ es, OnWire e.1)
      (hv : ∀ e ∈ es, OnWire e.2) : OnWire (.map flavour es)

theorem OnWire.of_items? {v : Value} (h : OnWire v) {items : List Value}
    (hi : v.items? = some items) : ∀ x ∈ items, OnWire x := by
  cases h with
  | list h | tuple h => cases hi; exact h
  | _ => cases hi

/-- A map that bytes stand for is a plain map or a frozen one, and no structured key. -/
theorem OnWire.eq_map {v : Value} (h : OnWire v) {es : Entries} (he : v.entries? = some es) :
    ∃ flavour, v = .map flavour es := by
  cases h with
  | map flavour hk hv => cases he; exact ⟨flavour, rfl⟩
  | _ => cases he

/-! ## Arrays and maps -/

section Readers

variable {P : Value → Prop} {item : Bytes → Option (Value × Bytes)}
  {Q : Value × Value → Prop} {entry : Bytes → Option ((Value × Value) × Bytes)}

theorem readItems_forall (h : ∀ b x rest, item b = some (x, rest) → P x) (count : Nat) :
    ∀ b xs rest, readItems item count b = some (xs, rest) → ∀ x ∈ xs, P x := by
  induction count with
  | zero =>
      intro b xs rest hr
      cases hr
      simp
  | succ count ih =>
      intro b xs rest hr
      simp only [readItems, Option.bind_eq_bind, Option.bind_eq_some_iff] at hr
      obtain ⟨⟨x, r₁⟩, hx, ⟨ys, r₂⟩, hys, hr⟩ := hr
      cases hr
      intro y hy
      rcases List.mem_cons.1 hy with rfl | hy
      · exact h b y r₁ hx
      · exact ih r₁ ys r₂ hys y hy

theorem readItemsToBreak_forall (h : ∀ b x rest, item b = some (x, rest) → P x) (fuel : Nat) :
    ∀ b xs rest, readItemsToBreak item fuel b = some (xs, rest) → ∀ x ∈ xs, P x := by
  induction fuel with
  | zero =>
      intro b xs rest hr
      cases hr
  | succ fuel ih =>
      intro b xs rest hr
      unfold readItemsToBreak at hr
      split at hr
      · cases hr
        simp
      · simp only [Option.bind_eq_bind, Option.bind_eq_some_iff] at hr
        obtain ⟨⟨x, r₁⟩, hx, ⟨ys, r₂⟩, hys, hr⟩ := hr
        cases hr
        intro y hy
        rcases List.mem_cons.1 hy with rfl | hy
        · exact h b y r₁ hx
        · exact ih r₁ ys r₂ hys y hy

theorem readArray_forall (h : ∀ b x rest, item b = some (x, rest) → P x) (info : Nat)
    {b : Bytes} {xs : List Value} {rest : Bytes} (hr : readArray item info b = some (xs, rest)) :
    ∀ x ∈ xs, P x := by
  rw [readArray] at hr
  split at hr
  · exact readItemsToBreak_forall h _ b xs rest hr
  · simp only [Option.bind_eq_bind, Option.bind_eq_some_iff] at hr
    obtain ⟨⟨n, r⟩, -, hr⟩ := hr
    split at hr
    · cases hr
    · exact readItems_forall h n r xs rest hr

theorem readEntries_forall (h : ∀ b e rest, entry b = some (e, rest) → Q e) (count : Nat) :
    ∀ b es rest, readEntries entry count b = some (es, rest) → ∀ e ∈ es, Q e := by
  induction count with
  | zero =>
      intro b es rest hr
      cases hr
      simp
  | succ count ih =>
      intro b es rest hr
      simp only [readEntries, Option.bind_eq_bind, Option.bind_eq_some_iff] at hr
      obtain ⟨⟨e, r₁⟩, he, ⟨fs, r₂⟩, hfs, hr⟩ := hr
      cases hr
      intro f hf
      rcases List.mem_cons.1 hf with rfl | hf
      · exact h b f r₁ he
      · exact ih r₁ fs r₂ hfs f hf

theorem readEntriesToBreak_forall (h : ∀ b e rest, entry b = some (e, rest) → Q e) (fuel : Nat) :
    ∀ b es rest, readEntriesToBreak entry fuel b = some (es, rest) → ∀ e ∈ es, Q e := by
  induction fuel with
  | zero =>
      intro b es rest hr
      cases hr
  | succ fuel ih =>
      intro b es rest hr
      unfold readEntriesToBreak at hr
      split at hr
      · cases hr
        simp
      · simp only [Option.bind_eq_bind, Option.bind_eq_some_iff] at hr
        obtain ⟨⟨e, r₁⟩, he, ⟨fs, r₂⟩, hfs, hr⟩ := hr
        cases hr
        intro f hf
        rcases List.mem_cons.1 hf with rfl | hf
        · exact h b f r₁ he
        · exact ih r₁ fs r₂ hfs f hf

theorem readMap_forall (h : ∀ b e rest, entry b = some (e, rest) → Q e) (info : Nat)
    {b : Bytes} {es : Entries} {rest : Bytes} (hr : readMap entry info b = some (es, rest)) :
    ∀ e ∈ es, Q e := by
  rw [readMap] at hr
  split at hr
  · exact readEntriesToBreak_forall h _ b es rest hr
  · simp only [Option.bind_eq_bind, Option.bind_eq_some_iff] at hr
    obtain ⟨⟨n, r⟩, -, hr⟩ := hr
    split at hr
    · cases hr
    · exact readEntries_forall h n r es rest hr

end Readers

/-! ## Items -/

/-- **What one item can be** whose parts have a property. -/
inductive Item (P : Value → Prop) : Value → Prop
  | null : Item P .null
  | undefined : Item P .undefined
  | bool (b : Bool) : Item P (.bool b)
  | simple (code : UInt8) : Item P (.simple code)
  | int {n : Int} (h : -2 ^ 64 ≤ n ∧ n < 2 ^ 64) : Item P (.int n)
  | float (x : Binary64) : Item P (.float x)
  | text (s : String) : Item P (.text s)
  | bytes (b : Bytes) : Item P (.bytes b)
  | list {items : List Value} (h : ∀ x ∈ items, P x) : Item P (.list items)
  | tuple {items : List Value} (h : ∀ x ∈ items, P x) : Item P (.tuple items)
  | map (flavour : MapFlavour) {es : Entries} (hk : ∀ e ∈ es, P e.1) (hv : ∀ e ∈ es, P e.2) :
      Item P (.map flavour es)
  | tag (number : Nat) {content : Value} (h : P content) : Item P (.tag number content)
  -- what else a tag can mean: its content, or what its content stands for
  | content {v : Value} (h : P v) : Item P v
  | bigInt (n : Int) {content : Value} (h : P content) : Item P (.int n)
  | object (o : TaggedObject) {content : Value} (h : P content) : Item P (.object o)
  | set (frozen : Bool) (elements : List Value) {content : Value} (h : P content) :
      Item P (.set frozen elements)

variable {P : Value → Prop}

/-- A reader that gives nothing but values with a property. -/
def Gives (P : Value → Prop) (item : Reader) : Prop :=
  ∀ frozen b v rest, item frozen b = some (v, rest) → P v

theorem argument_lt {info n : Nat} {b rest : Bytes} (h : argument info b = some (n, rest)) :
    n < 2 ^ 64 := by
  unfold argument at h
  split at h
  · cases h
    omega
  split at h
  · obtain ⟨⟨digits, left⟩, htake, hn⟩ := Option.map_eq_some_iff.1 h
    cases hn
    -- 24 to 27 announce one, two, four or eight digits
    have hlength : digits.length ≤ 8 := by
      unfold takeBytes at htake
      split at htake
      · cases htake
      · cases htake
        have hwidth : 1 <<< (info - 24) ≤ 8 := by
          have hinfo : info - 24 ≤ 3 := by omega
          rw [Nat.one_shiftLeft]
          exact Nat.pow_le_pow_right (by decide) hinfo
        exact Nat.le_trans (List.length_take_le _ _) hwidth
    calc Bytes.toNatBE digits
        < 256 ^ digits.reverse.length := Bytes.toNatLE_lt digits.reverse
      _ ≤ 256 ^ 8 := Nat.pow_le_pow_right (by decide) (by rwa [List.length_reverse])
      _ = 2 ^ 64 := by decide
  · cases h

theorem readEntry_forall {item : Reader} (h : Gives P item) (frozen : Bool) (b : Bytes)
    (e : Value × Value) (rest : Bytes) (hr : readEntry item frozen b = some (e, rest)) :
    P e.1 ∧ P e.2 := by
  simp only [readEntry, Option.bind_eq_bind, Option.bind_eq_some_iff] at hr
  obtain ⟨⟨k, r₁⟩, hk, ⟨v, r₂⟩, hv, hr⟩ := hr
  cases hr
  exact ⟨h _ _ _ _ hk, h _ _ _ _ hv⟩

theorem item_array (frozen : Bool) {items : List Value} (h : ∀ x ∈ items, P x) :
    Item P (if frozen then .tuple items else .list items) := by
  cases frozen with
  | false => exact .list h
  | true => exact .tuple h

theorem item_map (flavour : MapFlavour) {es : Entries} (h : ∀ e ∈ es, P e.1 ∧ P e.2) :
    Item P (.map flavour (Entries.ofList es)) := by
  have hmap := Entries.ofList_forall h
  exact .map _ (fun e he => (hmap e he).1) (fun e he => (hmap e he).2)

theorem item_simpleOf (code : Nat) : Item P (simpleOf code) := by
  unfold simpleOf
  split
  · exact .bool false
  split
  · exact .bool true
  split
  · exact .null
  split
  · exact .undefined
  · exact .simple _

theorem item_of_readSimple {info : Nat} {b : Bytes} {v : Value} {rest : Bytes}
    (h : readSimple info b = some (v, rest)) : Item P v := by
  unfold readSimple at h
  split at h
  · cases h
    exact item_simpleOf info
  split at h
  · simp only [Option.bind_eq_bind, Option.bind_eq_some_iff] at h
    obtain ⟨⟨code, r⟩, -, h⟩ := h
    dsimp only at h
    split at h
    · cases h
    · cases h
      exact item_simpleOf _
  · -- a float of one of the three widths
    repeat
      split at h
      · obtain ⟨x, -, h⟩ := Option.map_eq_some_iff.1 h
        cases h
        exact .float _
    cases h

/-- The meaning of a tag keeps the content, or is an object, a set or an integer. -/
theorem item_of_interpret? {frozen : Bool} {number : Nat} {content v : Value} (hc : P content)
    (h : interpret? frozen number content = some v) : Item P v := by
  unfold interpret? at h
  split at h
  · obtain ⟨b, -, rfl⟩ := Option.map_eq_some_iff.1 h
    exact .bigInt _ hc
  · obtain ⟨b, -, rfl⟩ := Option.map_eq_some_iff.1 h
    exact .bigInt _ hc
  · obtain ⟨items, -, rfl⟩ := Option.map_eq_some_iff.1 h
    exact .set _ _ hc
  · split at h
    · cases h
      exact .tag _ hc
    · obtain ⟨o, -, rfl⟩ := Option.map_eq_some_iff.1 h
      exact .object o hc
  · cases h
    exact .content hc
  · split at h
    · obtain ⟨o, -, rfl⟩ := Option.map_eq_some_iff.1 h
      exact .object o hc
    · cases h
      exact .tag _ hc

/-- **The parts of an item are what the inner reader gives.** -/
theorem readItem_gives {inner : Option Reader} (h : ∀ item, inner = some item → Gives P item) :
    Gives (Item P) (readItem inner) := by
  intro frozen b v rest hr
  unfold readItem at hr
  split at hr
  · cases hr
  dsimp only at hr
  split at hr
  · -- an integer from 0 on
    obtain ⟨p, hp, hv⟩ := Option.map_eq_some_iff.1 hr
    cases hv
    have hfits := argument_lt hp
    exact .int ⟨by omega, by omega⟩
  · -- a negative integer
    obtain ⟨p, hp, hv⟩ := Option.map_eq_some_iff.1 hr
    cases hv
    have hfits := argument_lt hp
    exact .int ⟨by omega, by omega⟩
  · -- a byte string
    obtain ⟨p, -, hv⟩ := Option.map_eq_some_iff.1 hr
    cases hv
    exact .bytes _
  · -- a text
    simp only [Option.bind_eq_bind, Option.bind_eq_some_iff] at hr
    obtain ⟨p, -, texts, -, hv⟩ := hr
    cases hv
    exact .text _
  · -- an array: one that declares no items, or one whose items the inner reader gives
    split at hr
    · cases hr
      exact item_array frozen (by simp)
    · simp only [Option.bind_eq_bind, Option.bind_eq_some_iff] at hr
      obtain ⟨⟨items, r⟩, ⟨item, hitem, hi⟩, hv⟩ := hr
      cases hv
      exact item_array frozen (readArray_forall (fun b x r => h item hitem frozen b x r) _ hi)
  · -- a map, likewise
    split at hr
    · cases hr
      exact item_map _ (by simp)
    · simp only [Option.bind_eq_bind, Option.bind_eq_some_iff] at hr
      obtain ⟨⟨es, r⟩, ⟨item, hitem, he⟩, hv⟩ := hr
      cases hv
      exact item_map _ (readMap_forall (readEntry_forall (h item hitem) frozen) _ he)
  · -- a tagged item
    simp only [Option.bind_eq_bind, Option.bind_eq_some_iff] at hr
    obtain ⟨item, hitem, ⟨number, r₁⟩, -, ⟨content, r₂⟩, hc, meaning, hm, hv⟩ := hr
    cases hv
    exact item_of_interpret? (h item hitem _ _ _ _ hc) hm
  · exact item_of_readSimple hr

/-- **What holds of every value that is read**, by induction on the depth of the reader: at the
greatest depth there is no inner reader, and an item has no parts. -/
theorem read_gives {P : Nat → Value → Prop} (zero : ∀ v, Item (fun _ => False) v → P 0 v)
    (succ : ∀ depth v, Item (P depth) v → P (depth + 1) v) (depth : Nat) :
    Gives (P depth) (read depth) := by
  induction depth with
  | zero =>
      intro frozen b v rest hr
      exact zero v (readItem_gives (fun item h => by cases h) frozen b v rest hr)
  | succ depth ih =>
      intro frozen b v rest hr
      refine succ depth v (readItem_gives ?_ frozen b v rest hr)
      rintro item ⟨⟩
      exact ih

theorem of_decode? {P : Nat → Value → Prop} (zero : ∀ v, Item (fun _ => False) v → P 0 v)
    (succ : ∀ depth v, Item (P depth) v → P (depth + 1) v) {b : Bytes} {v : Value}
    (h : decode? b = some v) : P depthLimit v := by
  obtain ⟨⟨w, rest⟩, hr, rfl⟩ := Option.map_eq_some_iff.1 h
  exact read_gives zero succ depthLimit false b w rest hr

/-! ## Values of the wire -/

theorem Item.onWire {v : Value} (h : Item OnWire v) : OnWire v := by
  cases h with
  | null => exact .null
  | undefined => exact .undefined
  | bool b => exact .bool b
  | simple code => exact .simple code
  | int _ => exact .int _
  | float x => exact .float x
  | text s => exact .text s
  | bytes b => exact .bytes b
  | list h => exact .list h
  | tuple h => exact .tuple h
  | map flavour hk hv => exact .map flavour hk hv
  | tag number h => exact .tag number h
  | content h => exact h
  | bigInt n _ => exact .int n
  | object o _ => exact .object o
  | set frozen elements _ => exact .set frozen elements

theorem Item.mono {Q : Value → Prop} {v : Value} (h : Item P v) (hPQ : ∀ x, P x → Q x) :
    Item Q v := by
  cases h with
  | null => exact .null
  | undefined => exact .undefined
  | bool b => exact .bool b
  | simple code => exact .simple code
  | int h => exact .int h
  | float x => exact .float x
  | text s => exact .text s
  | bytes b => exact .bytes b
  | list h => exact .list fun x hx => hPQ x (h x hx)
  | tuple h => exact .tuple fun x hx => hPQ x (h x hx)
  | map flavour hk hv =>
      exact .map flavour (fun e he => hPQ e.1 (hk e he)) fun e he => hPQ e.2 (hv e he)
  | tag number h => exact .tag number (hPQ _ h)
  | content h => exact .content (hPQ _ h)
  | bigInt n h => exact .bigInt n (hPQ _ h)
  | object o h => exact .object o (hPQ _ h)
  | set frozen elements h => exact .set frozen elements (hPQ _ h)

/-- **Bytes stand only for values of the wire.** -/
theorem onWire_decode? {b : Bytes} {v : Value} (h : decode? b = some v) : OnWire v :=
  of_decode? (fun _ hv => (hv.mono fun _ hx => hx.elim).onWire) (fun _ _ hv => hv.onWire) h

end DeviceTrust.Cbor
