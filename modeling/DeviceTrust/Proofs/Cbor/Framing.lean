import DeviceTrust.Proofs.Cbor.Scalar

/-!
# Where an encoding ends

Not everything that can be written can be read, and not everything that is read comes back as it was:
a tag can give its content another meaning, or refuse it. But whatever is read from the front of an
encoding, it is read from this encoding and no more (`framed_encode`). So the parts of what is encoded
keep their places, whatever stands in them: what is read of an array is read of its items
(`ReadAs.exists_items`), and what is read of a map of its entries (`ReadAs.exists_entries`).

The induction is on the value. An encoding that cannot be read at all has nothing to show.
-/

set_option autoImplicit false

namespace DeviceTrust.Cbor

/-! ## Bytes that are taken as a whole -/

/-- **A reader takes some bytes as a whole**: if it gives anything, it leaves just what follows. -/
def Takes {α : Type} (reader : Bytes → Option (α × Bytes)) (b : Bytes) : Prop :=
  ∀ rest a left, reader (b ++ rest) = some (a, left) → left = rest

/-- **Framed bytes** are taken as a whole at any depth. -/
def Framed (b : Bytes) : Prop := ∀ depth frozen, Takes (read depth frozen) b

/-- Bytes that are taken as a whole where a number of items is read. -/
def FramedItems (count : Nat) (b : Bytes) : Prop :=
  ∀ depth frozen, Takes (readItems (read depth frozen) count) b

def FramedEntries (count : Nat) (b : Bytes) : Prop :=
  ∀ depth frozen, Takes (readEntries (readEntry (read depth) frozen) count) b

theorem Reads.takes {α : Type} {reader : Bytes → Option (α × Bytes)} {b : Bytes} {a : α}
    (h : Reads reader b a) : Takes reader b := by
  intro rest a' left hread
  rw [h rest] at hread
  cases hread
  rfl

theorem framed_of_reads {b : Bytes}
    (h : ∀ inner frozen, ∃ v, Reads (readItem inner frozen) b v) : Framed b := by
  intro depth frozen
  cases depth with
  | zero =>
      obtain ⟨v, hv⟩ := h none frozen
      exact hv.takes
  | succ depth =>
      obtain ⟨v, hv⟩ := h (some (read depth)) frozen
      exact hv.takes

/-! ## Heads -/

/-- A head is read whatever its number is; one beyond 64 bits is cut off. -/
theorem head_cut {major : Nat} (hm : major < 8) (n : Nat) :
    ∃ first tail n', head major n = first :: tail ∧ first.toNat / 32 = major ∧
      Reads (argument (first.toNat % 32)) tail n' := by
  by_cases hn : n < 2 ^ 64
  · obtain ⟨first, tail, hhead, hmajor, -, hreads⟩ := head_spec hm hn
    exact ⟨first, tail, n, hhead, hmajor, hreads⟩
  · have hhead : head major n = UInt8.ofNat (32 * major + 27) :: Bytes.ofNatBE 8 n := by
      rw [head, if_neg (by omega), if_neg (by omega), if_neg (by omega), if_neg (by omega)]
    obtain ⟨hmajor, hinfo⟩ := first_split hm (show 27 < 32 by decide)
    refine ⟨_, _, Bytes.toNatBE (Bytes.ofNatBE 8 n), hhead, hmajor, fun rest => ?_⟩
    have htake := takeBytes_append (Bytes.ofNatBE 8 n) rest
    rw [Bytes.length_ofNatBE] at htake
    rw [hinfo, argument, if_neg (by decide), if_pos (by decide)]
    show (takeBytes 8 _).map _ = _
    rw [htake]
    rfl

/-! ## Items within items -/

theorem framedItems_zero : FramedItems 0 [] := by
  intro depth frozen rest items left h
  cases h
  rfl

theorem FramedItems.cons {count : Nat} {bx b : Bytes} (hx : Framed bx) (h : FramedItems count b) :
    FramedItems (count + 1) (bx ++ b) := by
  intro depth frozen rest items left hread
  rw [List.append_assoc, readItems] at hread
  simp only [Option.bind_eq_bind, Option.bind_eq_some_iff] at hread
  obtain ⟨⟨x, r⟩, hfirst, ⟨xs, r'⟩, hothers, hleft⟩ := hread
  cases hleft
  rw [hx depth frozen _ _ _ hfirst] at hothers
  exact h depth frozen _ _ _ hothers

theorem framedEntries_zero : FramedEntries 0 [] := by
  intro depth frozen rest es left h
  cases h
  rfl

theorem FramedEntries.cons {count : Nat} {bk bv b : Bytes} (hk : Framed bk) (hv : Framed bv)
    (h : FramedEntries count b) : FramedEntries (count + 1) (bk ++ (bv ++ b)) := by
  intro depth frozen rest es left hread
  rw [List.append_assoc, List.append_assoc, readEntries] at hread
  simp only [readEntry, Option.bind_eq_bind, Option.bind_eq_some_iff] at hread
  obtain ⟨⟨e, r⟩, ⟨⟨k, rk⟩, hlabel, ⟨v, rv⟩, hcontent, hentry⟩, ⟨es', r'⟩, hothers, hleft⟩ := hread
  cases hentry
  cases hleft
  rw [hk depth true _ _ _ hlabel] at hcontent
  rw [hv depth frozen _ _ _ hcontent] at hothers
  exact h depth frozen _ _ _ hothers

theorem Framed.tag {b : Bytes} (h : Framed b) (number : Nat) : Framed (head 6 number ++ b) := by
  obtain ⟨first, tail, n, hhead, hmajor, harg⟩ := head_cut (by decide : 6 < 8) number
  intro depth frozen rest v left hread
  rw [hhead, List.append_assoc, List.cons_append] at hread
  cases depth with
  | zero =>
      simp only [read, readItem, hmajor] at hread
      cases hread
  | succ depth =>
      simp only [read, readItem, hmajor, harg (b ++ rest), Option.bind_eq_bind, Option.bind_some,
        Option.bind_eq_some_iff] at hread
      obtain ⟨⟨content, r⟩, hcontent, meaning, -, hleft⟩ := hread
      cases hleft
      exact h depth _ _ _ _ hcontent

/-- **What is read of an array**: as many items as its head declares. -/
theorem read_array_eq_some {count : Nat} (hcount : count < 2 ^ 64) {depth : Nat} {frozen : Bool}
    {b left : Bytes} {v : Value} (hread : read depth frozen (head 4 count ++ b) = some (v, left)) :
    ∃ inner items, (count ≠ 0 → depth = inner + 1) ∧
      readItems (read inner frozen) count b = some (items, left) ∧ v = arrayOf frozen items := by
  obtain ⟨first, tail, hhead, hmajor, hinfo, harg⟩ := head_spec (by decide : 4 < 8) hcount
  rw [hhead, List.cons_append] at hread
  by_cases hzero : count = 0
  · -- an array that declares no items is read at any depth
    subst hzero
    cases depth with
    | zero | succ depth =>
        simp only [read, readItem, hmajor, afterNone?_of_reads harg, if_pos, Option.bind_eq_bind,
          Option.bind_some] at hread
        cases hread
        exact ⟨0, [], fun hne => absurd rfl hne, rfl, rfl⟩
  · have hdefinite : ¬ first.toNat % 32 = 31 := by omega
    cases depth with
    | zero =>
        simp only [read, readItem, hmajor, afterNone?_of_reads harg, if_neg hzero] at hread
        cases hread
    | succ depth =>
        simp only [read, readItem, hmajor, afterNone?_of_reads harg, if_neg hzero, readArray,
          if_neg hdefinite, harg b, Option.bind_eq_bind, Option.bind_some,
          Option.bind_eq_some_iff] at hread
        obtain ⟨⟨items, r⟩, hitems, hv⟩ := hread
        cases hv
        split at hitems
        · cases hitems
        · exact ⟨depth, items, fun _ => rfl, hitems, rfl⟩

/-- **What is read of a map**: as many entries as its head declares. -/
theorem read_map_eq_some {count : Nat} (hcount : count < 2 ^ 64) {depth : Nat} {frozen : Bool}
    {b left : Bytes} {v : Value} (hread : read depth frozen (head 5 count ++ b) = some (v, left)) :
    ∃ inner es, readEntries (readEntry (read inner) frozen) count b = some (es, left) ∧
      v = mapOf frozen es := by
  obtain ⟨first, tail, hhead, hmajor, hinfo, harg⟩ := head_spec (by decide : 5 < 8) hcount
  rw [hhead, List.cons_append] at hread
  by_cases hzero : count = 0
  · subst hzero
    cases depth with
    | zero | succ depth =>
        simp only [read, readItem, hmajor, afterNone?_of_reads harg, if_pos, Option.bind_eq_bind,
          Option.bind_some] at hread
        cases hread
        exact ⟨0, [], rfl, rfl⟩
  · have hdefinite : ¬ first.toNat % 32 = 31 := by omega
    cases depth with
    | zero =>
        simp only [read, readItem, hmajor, afterNone?_of_reads harg, if_neg hzero] at hread
        cases hread
    | succ depth =>
        simp only [read, readItem, hmajor, afterNone?_of_reads harg, if_neg hzero, readMap,
          if_neg hdefinite, harg b, Option.bind_eq_bind, Option.bind_some,
          Option.bind_eq_some_iff] at hread
        obtain ⟨⟨es, r⟩, hentries, hv⟩ := hread
        cases hv
        split at hentries
        · cases hentries
        · exact ⟨depth, es, hentries, rfl⟩

theorem FramedItems.array {count : Nat} {b : Bytes} (h : FramedItems count b)
    (hcount : count < 2 ^ 64) : Framed (head 4 count ++ b) := by
  intro depth frozen rest v left hread
  rw [List.append_assoc] at hread
  obtain ⟨inner, items, -, hitems, -⟩ := read_array_eq_some hcount hread
  exact h inner frozen _ _ _ hitems

theorem FramedEntries.map {count : Nat} {b : Bytes} (h : FramedEntries count b)
    (hcount : count < 2 ^ 64) : Framed (head 5 count ++ b) := by
  intro depth frozen rest v left hread
  rw [List.append_assoc] at hread
  obtain ⟨inner, es, hentries, -⟩ := read_map_eq_some hcount hread
  exact h inner frozen _ _ _ hentries

/-! ## Scalars -/

theorem framed_encodeBytes {b : Bytes} (hb : b.length < 2 ^ 64) : Framed (encodeBytes b) :=
  framed_of_reads fun inner frozen => ⟨_, readItem_bytes inner frozen hb⟩

theorem framed_encodeText {s : String} (hs : (Bytes.ofText s).length < 2 ^ 64) :
    Framed (encodeText s) :=
  framed_of_reads fun inner frozen => ⟨_, readItem_text inner frozen hs⟩

theorem framed_encodeFloat (x : Binary64) : Framed (encodeFloat x) :=
  framed_of_reads fun inner frozen => ⟨_, readItem_float inner frozen x⟩

theorem framed_encodeInt {n : Int} (hn : (encodeInt n).length < 2 ^ 64) : Framed (encodeInt n) := by
  cases n with
  | ofNat n =>
      rw [encodeInt] at hn ⊢
      split
      · rename_i hsmall
        exact framed_of_reads fun inner frozen => ⟨_, readItem_unsigned inner frozen hsmall⟩
      · rename_i hbig
        rw [if_neg hbig] at hn
        simp only [encodeBytes, List.length_append] at hn
        exact (framed_encodeBytes (by omega)).tag 2
  | negSucc n =>
      rw [encodeInt] at hn ⊢
      split
      · rename_i hsmall
        exact framed_of_reads fun inner frozen => ⟨_, readItem_negative inner frozen hsmall⟩
      · rename_i hbig
        rw [if_neg hbig] at hn
        simp only [encodeBytes, List.length_append] at hn
        exact (framed_encodeBytes (by omega)).tag 3

/-- A simple value is framed, also one whose code means something else or is kept for heads. -/
theorem framed_encodeSimple (code : UInt8) : Framed (encodeSimple code) := by
  have hcode : code.toNat < 256 := code.toNat_lt
  by_cases hplain : code.toNat < 20 ∨ 32 ≤ code.toNat
  · exact framed_of_reads fun inner frozen => ⟨_, readItem_simple inner frozen hplain⟩
  · by_cases hshort : code.toNat < 24
    · -- a boolean, null or undefined, whose code stands in the head
      have hhead : encodeSimple code = [UInt8.ofNat (32 * 7 + code.toNat)] := by
        rw [encodeSimple, head, if_pos hshort]
      obtain ⟨hmajor, hlow⟩ := first_split (by decide : 7 < 8) (show code.toNat < 32 by omega)
      refine framed_of_reads fun inner frozen => ⟨simpleOf code.toNat, fun rest => ?_⟩
      rw [hhead, List.singleton_append, readItem_eq_readSimple _ _ hmajor, hlow, readSimple,
        if_pos hshort]
    · -- a code that a reader refuses in a byte of its own
      have hhead : encodeSimple code = UInt8.ofNat (32 * 7 + 24) :: Bytes.ofNatBE 1 code.toNat := by
        rw [encodeSimple, head, if_neg hshort, if_pos (by omega)]
      have hnumber : Bytes.toNatBE (Bytes.ofNatBE 1 code.toNat) = code.toNat :=
        Bytes.toNatBE_ofNatBE (by omega)
      have hinfo : (UInt8.ofNat (32 * 7 + 24)).toNat % 32 = 24 := by decide
      have hkept : code.toNat < 32 := by omega
      have hnone : ∀ inner frozen rest, readItem inner frozen (encodeSimple code ++ rest) = none := by
        intro inner frozen rest
        have htake := takeBytes_append (Bytes.ofNatBE 1 code.toNat) rest
        rw [Bytes.length_ofNatBE] at htake
        rw [hhead, List.cons_append, readItem_eq_readSimple _ _ (by decide), hinfo]
        simp [readSimple, htake, hnumber, hkept]
      intro depth frozen rest v left hread
      cases depth with
      | zero => cases (hnone none frozen rest).symm.trans hread
      | succ depth => cases (hnone (some (read depth)) frozen rest).symm.trans hread

/-! ## Objects that tags stand for -/

theorem framed_encodePair {a b : Bytes} (ha : Framed a) (hb : Framed b) (number : Nat) :
    Framed (encodePair number a b) := by
  have hitems : FramedItems 2 (a ++ (b ++ [])) := .cons ha (.cons hb framedItems_zero)
  have hpair := (hitems.array (by decide)).tag number
  simpa [encodePair] using hpair

theorem framed_encodeObject {o : TaggedObject} {b : Bytes} (hb : encodeObject? o = some b)
    (hlength : b.length < 2 ^ 64) : Framed b := by
  cases o with
  | moment m =>
      obtain ⟨s, -, rfl⟩ := Option.map_eq_some_iff.1 hb
      simp only [encodeText, List.length_append] at hlength
      exact (framed_encodeText (by omega)).tag 0
  | date day =>
      cases hb
      simp only [encodeText, List.length_append] at hlength
      exact (framed_encodeText (by omega)).tag 1004
  | decimal x =>
      cases hb
      simp only [encodePair, List.length_append] at hlength
      exact framed_encodePair (framed_encodeInt (by omega)) (framed_encodeInt (by omega)) 4
  | fraction x =>
      cases hb
      simp only [encodePair, List.length_append] at hlength
      exact framed_encodePair (framed_encodeInt (by omega)) (framed_encodeInt (by omega)) 30
  | complex re im =>
      cases hb
      exact framed_encodePair (framed_encodeFloat re) (framed_encodeFloat im) 43000
  | pattern p =>
      cases p with
      | text s =>
          cases hb
          simp only [encodeText, List.length_append] at hlength
          exact (framed_encodeText (by omega)).tag 35
      | bytes s =>
          cases hb
          simp only [encodeBytes, List.length_append] at hlength
          exact (framed_encodeBytes (by omega)).tag 35
  | identifier s =>
      cases hb
      simp only [encodeBytes, List.length_append] at hlength
      exact (framed_encodeBytes (by omega)).tag 37
  | address s =>
      cases hb
      simp only [encodeBytes, List.length_append] at hlength
      exact (framed_encodeBytes (by omega)).tag 260

/-! ## Values -/

/-- Framed bytes are not empty: from nothing, an item that follows would be taken. -/
theorem Framed.length_pos {b : Bytes} (h : Framed b) : 0 < b.length := by
  by_contra hempty
  obtain rfl : b = [] := List.eq_nil_of_length_eq_zero (by omega)
  have hnull := h 0 false [0xf6] .null [] rfl
  cases hnull

mutual

/-- **Every encoding is framed**: whatever is read from the front of it, what follows is left. -/
theorem framed_encode : (v : Value) → {b : Bytes} → encode? v = some b → b.length < 2 ^ 64 →
    Framed b
  | .null, _, hb, _ => by
      cases hb
      exact framed_of_reads fun inner frozen => ⟨.null, fun rest => rfl⟩
  | .undefined, _, hb, _ => by
      cases hb
      exact framed_of_reads fun inner frozen => ⟨.undefined, fun rest => rfl⟩
  | .bool true, _, hb, _ => by
      cases hb
      exact framed_of_reads fun inner frozen => ⟨.bool true, fun rest => rfl⟩
  | .bool false, _, hb, _ => by
      cases hb
      exact framed_of_reads fun inner frozen => ⟨.bool false, fun rest => rfl⟩
  | .int n, _, hb, hlength => by
      cases hb
      exact framed_encodeInt hlength
  | .registered r, _, hb, hlength => by
      cases hb
      exact framed_encodeInt hlength
  | .float x, _, hb, _ => by
      cases hb
      exact framed_encodeFloat x
  | .simple code, _, hb, _ => by
      cases hb
      exact framed_encodeSimple code
  | .text s, _, hb, hlength => by
      cases hb
      rw [encodeText, List.length_append] at hlength
      exact framed_encodeText (by omega)
  | .bytes s, _, hb, hlength => by
      cases hb
      rw [encodeBytes, List.length_append] at hlength
      exact framed_encodeBytes (by omega)
  | .buffer s, _, hb, hlength => by
      cases hb
      rw [encodeBytes, List.length_append] at hlength
      exact framed_encodeBytes (by omega)
  | .list items, _, hb, hlength => by
      obtain ⟨bs, hbs, rfl⟩ := Option.map_eq_some_iff.1 hb
      rw [List.length_append] at hlength
      obtain ⟨hcount, hitems⟩ := framedItems_encode items hbs (by omega)
      exact hitems.array (by omega)
  | .tuple items, _, hb, hlength => by
      obtain ⟨bs, hbs, rfl⟩ := Option.map_eq_some_iff.1 hb
      rw [List.length_append] at hlength
      obtain ⟨hcount, hitems⟩ := framedItems_encode items hbs (by omega)
      exact hitems.array (by omega)
  | .set _ items, _, hb, hlength => by
      obtain ⟨bs, hbs, rfl⟩ := Option.map_eq_some_iff.1 hb
      rw [List.length_append] at hlength
      obtain ⟨hcount, hitems⟩ := framedItems_encode items hbs (by omega)
      rw [List.append_assoc]
      exact (hitems.array (by omega)).tag setTag
  | .map _ es, _, hb, hlength => by
      obtain ⟨bs, hbs, rfl⟩ := Option.map_eq_some_iff.1 hb
      rw [List.length_append] at hlength
      obtain ⟨hcount, hentries⟩ := framedEntries_encode es hbs (by omega)
      exact hentries.map (by omega)
  | .coseKey es, _, hb, hlength => by
      obtain ⟨bs, hbs, rfl⟩ := Option.map_eq_some_iff.1 hb
      rw [List.length_append] at hlength
      obtain ⟨hcount, hentries⟩ := framedEntries_encode es hbs (by omega)
      exact hentries.map (by omega)
  | .tag number content, _, hb, hlength => by
      obtain ⟨bs, hbs, rfl⟩ := Option.map_eq_some_iff.1 hb
      rw [List.length_append] at hlength
      exact (framed_encode content hbs (by omega)).tag number
  | .object o, _, hb, hlength => framed_encodeObject hb hlength
  | .kind _, _, hb, _ => by cases hb
  | .message _ _ _ _, _, hb, _ => by cases hb
  | .publicKey _, _, hb, _ => by cases hb
  | .privateKey _ _, _, hb, _ => by cases hb
  | .keyPair _ _, _, hb, _ => by cases hb
  | .unknown _, _, hb, _ => by cases hb

/-- So are the encodings of items one after the other, and there are as many bytes as items. -/
theorem framedItems_encode : (items : List Value) → {b : Bytes} → encodeItems? items = some b →
    b.length < 2 ^ 64 → items.length ≤ b.length ∧ FramedItems items.length b
  | [], _, hb, _ => by
      cases hb
      exact ⟨Nat.le_refl _, framedItems_zero⟩
  | x :: rest, _, hb, hlength => by
      obtain ⟨bx, br, hx, hr, rfl⟩ := encodeItems?_cons_eq_some hb
      rw [List.length_append] at hlength
      have hfirst := framed_encode x hx (by omega)
      obtain ⟨hcount, hothers⟩ := framedItems_encode rest hr (by omega)
      have hpos := hfirst.length_pos
      refine ⟨?_, .cons hfirst hothers⟩
      rw [List.length_cons, List.length_append]
      omega

theorem framedEntries_encode : (es : Entries) → {b : Bytes} → encodeEntries? es = some b →
    b.length < 2 ^ 64 → es.length ≤ b.length ∧ FramedEntries es.length b
  | [], _, hb, _ => by
      cases hb
      exact ⟨Nat.le_refl _, framedEntries_zero⟩
  | (k, v) :: rest, _, hb, hlength => by
      obtain ⟨bk, bv, br, hk, hv, hr, rfl⟩ := encodeEntries?_cons_eq_some hb
      rw [List.length_append, List.length_append] at hlength
      have hlabel := framed_encode k hk (by omega)
      have hcontent := framed_encode v hv (by omega)
      obtain ⟨hcount, hothers⟩ := framedEntries_encode rest hr (by omega)
      have hpos := hlabel.length_pos
      refine ⟨?_, .cons hlabel hcontent hothers⟩
      rw [List.length_cons, List.length_append, List.length_append]
      omega

end

/-! ## What values are read as -/

/-- **What is read of the encoding of a value**, whatever follows there. -/
def ReadAs (depth : Nat) (frozen : Bool) (v w : Value) : Prop :=
  ∃ b rest left, encode? v = some b ∧ b.length < 2 ^ 64 ∧
    read depth frozen (b ++ rest) = some (w, left)

theorem readAs_of_decode? {v w : Value} {b : Bytes} (hb : encode? v = some b)
    (hlength : b.length < 2 ^ 64) (h : decode? b = some w) : ReadAs depthLimit false v w := by
  obtain ⟨⟨_, left⟩, hread, rfl⟩ := Option.map_eq_some_iff.1 h
  rw [← List.append_nil b] at hread
  exact ⟨b, [], left, hb, hlength, hread⟩

/-- **Items keep their places.** -/
theorem forall₂_of_readItems {depth : Nat} {frozen : Bool} {items : List Value} :
    ∀ {b rest left : Bytes} {ws : List Value}, encodeItems? items = some b → b.length < 2 ^ 64 →
      readItems (read depth frozen) items.length (b ++ rest) = some (ws, left) →
        List.Forall₂ (ReadAs depth frozen) items ws := by
  induction items with
  | nil =>
      intro b rest left ws _ _ hread
      cases hread
      exact .nil
  | cons x items ih =>
      intro b rest left ws hb hlength hread
      obtain ⟨bx, br, hx, hr, rfl⟩ := encodeItems?_cons_eq_some hb
      rw [List.length_append] at hlength
      rw [List.append_assoc, List.length_cons, readItems] at hread
      simp only [Option.bind_eq_bind, Option.bind_eq_some_iff] at hread
      obtain ⟨⟨w, r⟩, hfirst, ⟨ws', r'⟩, hothers, hleft⟩ := hread
      cases hleft
      have hrw : ReadAs depth frozen x w := ⟨bx, _, r, hx, by omega, hfirst⟩
      -- the item is taken as a whole, and so the next one follows
      rw [framed_encode x hx (by omega) depth frozen _ _ _ hfirst] at hothers
      exact .cons hrw (ih hr (by omega) hothers)

theorem forall₂_of_readEntries {depth : Nat} {frozen : Bool} {es : Entries} :
    ∀ {b rest left : Bytes} {fs : Entries}, encodeEntries? es = some b → b.length < 2 ^ 64 →
      readEntries (readEntry (read depth) frozen) es.length (b ++ rest) = some (fs, left) →
        List.Forall₂ (fun e f => ReadAs depth true e.1 f.1 ∧ ReadAs depth frozen e.2 f.2) es fs := by
  induction es with
  | nil =>
      intro b rest left fs _ _ hread
      cases hread
      exact .nil
  | cons e es ih =>
      intro b rest left fs hb hlength hread
      obtain ⟨k, v⟩ := e
      obtain ⟨bk, bv, br, hk, hv, hr, rfl⟩ := encodeEntries?_cons_eq_some hb
      rw [List.length_append, List.length_append] at hlength
      rw [List.append_assoc, List.append_assoc, List.length_cons, readEntries] at hread
      simp only [readEntry, Option.bind_eq_bind, Option.bind_eq_some_iff] at hread
      obtain ⟨⟨e, r⟩, ⟨⟨k', rk⟩, hlabel, ⟨v', rv⟩, hcontent, hentry⟩, ⟨fs', r'⟩, hothers, hleft⟩ :=
        hread
      cases hentry
      cases hleft
      -- a framed label ends where its content begins, and the content where the next entry does
      have hrk : ReadAs depth true k k' := ⟨bk, _, rk, hk, by omega, hlabel⟩
      rw [framed_encode k hk (by omega) depth true _ _ _ hlabel] at hcontent
      have hrv : ReadAs depth frozen v v' := ⟨bv, _, rv, hv, by omega, hcontent⟩
      rw [framed_encode v hv (by omega) depth frozen _ _ _ hcontent] at hothers
      exact .cons ⟨hrk, hrv⟩ (ih hr (by omega) hothers)

namespace ReadAs

variable {depth : Nat} {frozen : Bool} {v w : Value}

theorem eq_asRead (h : ReadAs depth frozen v w) (hv : Plain depth v) : w = asRead v frozen := by
  obtain ⟨b, rest, left, hb, hlength, hread⟩ := h
  rw [read_encode hv frozen b hb hlength rest] at hread
  cases hread
  rfl

theorem eq_asRead_of_isScalar (h : ReadAs depth frozen v w) (hv : IsScalar v) :
    w = asRead v frozen := by
  cases hv with
  | null => exact h.eq_asRead .null
  | bool value => exact h.eq_asRead (.bool value)
  | registered r => exact h.eq_asRead (.registered r)
  | float x => exact h.eq_asRead (.float x)
  | text s => exact h.eq_asRead (.text s)
  | bytes s => exact h.eq_asRead (.bytes s)
  | int n =>
      by_cases hn : -2 ^ 64 ≤ n ∧ n < 2 ^ 64
      · exact h.eq_asRead (.int hn)
      · cases depth with
        | succ depth => exact h.eq_asRead (.bigInt n)
        | zero =>
            -- the tag of a big integer is not read at the greatest depth
            obtain ⟨b, rest, left, hb, hlength, hread⟩ := h
            cases hb
            cases n with
            | ofNat n =>
                have hbig : ¬ n < 0x10000000000000000 := by
                  intro hlow
                  have hnonneg : (0 : Int) ≤ .ofNat n := Int.natCast_nonneg n
                  exact hn ⟨by omega, Int.ofNat_lt.2 hlow⟩
                rw [encodeInt, if_neg hbig] at hread
                cases hread
            | negSucc n =>
                have hbig : ¬ n < 0x10000000000000000 := by omega
                rw [encodeInt, if_neg hbig] at hread
                cases hread

/-- **A list is read as an array**, item by item; one that is not empty takes a level of nesting. -/
theorem exists_items {items : List Value} (h : ReadAs depth frozen (.list items) w) :
    ∃ inner ws, w = arrayOf frozen ws ∧ (items ≠ [] → depth = inner + 1) ∧
      List.Forall₂ (ReadAs inner frozen) items ws := by
  obtain ⟨b, rest, left, hb, hlength, hread⟩ := h
  obtain ⟨bs, hbs, rfl⟩ := Option.map_eq_some_iff.1 hb
  rw [List.length_append] at hlength
  obtain ⟨hcount, -⟩ := framedItems_encode items hbs (by omega)
  rw [List.append_assoc] at hread
  obtain ⟨inner, ws, hdepth, hitems, rfl⟩ := read_array_eq_some (by omega) hread
  refine ⟨inner, ws, rfl, fun hne => hdepth ?_, forall₂_of_readItems hbs (by omega) hitems⟩
  exact mt List.length_eq_zero_iff.1 hne

/-- **A map is read as a map**, entry by entry. -/
theorem exists_entries {flavour : MapFlavour} {es : Entries}
    (h : ReadAs depth frozen (.map flavour es) w) :
    ∃ inner fs, w = mapOf frozen fs ∧
      List.Forall₂ (fun e f => ReadAs inner true e.1 f.1 ∧ ReadAs inner frozen e.2 f.2) es fs := by
  obtain ⟨b, rest, left, hb, hlength, hread⟩ := h
  obtain ⟨bs, hbs, rfl⟩ := Option.map_eq_some_iff.1 hb
  rw [List.length_append] at hlength
  obtain ⟨hcount, -⟩ := framedEntries_encode es hbs (by omega)
  rw [List.append_assoc] at hread
  obtain ⟨inner, fs, hentries, rfl⟩ := read_map_eq_some (by omega) hread
  exact ⟨inner, fs, rfl, forall₂_of_readEntries hbs (by omega) hentries⟩

/-- **Scalar labels are read as they are**, whatever stands under them. -/
theorem exists_labels {flavour : MapFlavour} {es : Entries} (hl : ∀ e ∈ es, IsScalar e.1)
    (h : ReadAs depth frozen (.map flavour es) w) :
    ∃ fs, w = mapOf frozen fs ∧ fs.labels = es.labels.map fun label => asRead label true := by
  obtain ⟨inner, fs, rfl, hentries⟩ := h.exists_entries
  refine ⟨fs, rfl, ?_⟩
  clear h
  induction hentries with
  | nil => rfl
  | @cons e f es fs hentry _ ih =>
      have hlabel : f.1 = asRead e.1 true := hentry.1.eq_asRead_of_isScalar (hl e (by simp))
      have hothers := ih fun e he => hl e (by simp [he])
      show f.1 :: Entries.labels fs = asRead e.1 true :: (Entries.labels es).map _
      rw [hlabel, hothers]

end ReadAs

end DeviceTrust.Cbor
