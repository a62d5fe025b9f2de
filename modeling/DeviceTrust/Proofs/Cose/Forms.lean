import DeviceTrust.Cose.Message
import DeviceTrust.Proofs.Cbor.OnWire
import DeviceTrust.Proofs.Outcome

/-!
# The forms of keys and messages

What counts as a structured key (`HoldsKey`) and as a signed message (`HoldsMessage`), said without
the readers: by the shape of a value, and of what its bytes encode. The readers accept exactly these
forms (`CoseKey.decode_eq_ok_iff`, `SignedMessage.decode_eq_ok_iff`), and refuse everything else for
one reason.

A message that is handed over as such is taken as it is. Unless it was put together by hand
(`Value.Vetted`), it has the shape that reading gives (`SignedMessage.WellFormed`).
-/

set_option autoImplicit false

namespace DeviceTrust

/-! ## Kinds -/

namespace Value

theorem kindOf_eq_byteString_iff {v : Value} :
    v.kindOf = .byteString ↔ ∃ b, v.byteString? = some b := by
  cases v <;> simp [kindOf, byteString?]

theorem kindOf_eq_map_iff {v : Value} : v.kindOf = .map ↔ ∃ es, v.entries? = some es := by
  cases v <;> simp [kindOf, entries?]

theorem same_iff_of_byteString? {v w : Value} {b c : Bytes} (hv : v.byteString? = some b)
    (hw : w.byteString? = some c) : v.same w = true ↔ b = c := by
  have hsame : v.same w = (w.byteString? == some b) := by
    cases v with
    | bytes _ | buffer _ =>
        cases hv
        rw [same]
    | _ => cases hv
  rw [hsame, hw, beq_iff_eq, Option.some_inj]
  exact eq_comm

theorem byteString?_of_items? {v : Value} {items : List Value} (h : v.items? = some items) :
    v.byteString? = none := by
  cases v with
  | list _ | tuple _ => rfl
  | _ => cases h

end Value

/-! ## Untrusted bytes -/

def Cbor.EncodesMap (b : Bytes) (es : Entries) : Prop :=
  ∃ flavour, Cbor.decode? b = some (.map flavour es)

namespace WireItem

variable (item : WireItem)

theorem decode_eq_ok_iff {b : Bytes} {v : Value} :
    item.decode b = .ok v ↔ Cbor.decode? b = some v := by
  unfold decode
  split
  · rename_i w hw
    simp [hw]
  · rename_i hw
    simp [hw]

theorem decode_failsOnly (b : Bytes) : FailsOnly IsDeserialization (item.decode b) := by
  unfold decode
  split
  · exact .ok _
  · exact .error rfl

theorem read_of_byteString? {v : Value} {b : Bytes} (h : v.byteString? = some b) :
    item.read v = item.decode b := by
  simp [read, h]

theorem read_of_byteString?_eq_none {v : Value} (h : v.byteString? = none) :
    item.read v = .ok v := by
  simp [read, h]

theorem read_eq_ok_iff {v w : Value} :
    item.read v = .ok w ↔
      v.byteString? = none ∧ w = v ∨ ∃ b, v.byteString? = some b ∧ Cbor.decode? b = some w := by
  cases hb : v.byteString? with
  | none => simp [item.read_of_byteString?_eq_none hb, eq_comm]
  | some b => simp [item.read_of_byteString? hb, item.decode_eq_ok_iff]

theorem read_failsOnly (v : Value) : FailsOnly IsDeserialization (item.read v) := by
  cases hb : v.byteString? with
  | none =>
      rw [item.read_of_byteString?_eq_none hb]
      exact .ok v
  | some b =>
      rw [item.read_of_byteString? hb]
      exact item.decode_failsOnly b

end WireItem

/-! ## Structured keys -/

/-- **What counts as a structured key**: the key itself, the map of its parameters, or the encoding
of that map. -/
inductive HoldsKey : Value → CoseKey → Prop
  | key (es : Entries) : HoldsKey (.coseKey es) ⟨es⟩
  | map (flavour : MapFlavour) (es : Entries) : HoldsKey (.map flavour es) (.new es)
  | encoded {v : Value} {b : Bytes} {es : Entries} (hv : v.byteString? = some b)
      (hb : Cbor.EncodesMap b es) : HoldsKey v (.new es)

namespace CoseKey

theorem ofMap_failsOnly (v : Value) : FailsOnly IsDeserialization (ofMap v) := by
  unfold ofMap
  split
  · exact .ok _
  · exact .ok _
  · exact .error rfl

theorem decode_failsOnly (v : Value) : FailsOnly IsDeserialization (decode v) :=
  (WireItem.key.read_failsOnly v).bind fun w _ => ofMap_failsOnly w

@[simp] theorem decode_toValue (k : CoseKey) : decode k.toValue = .ok k := rfl

/-- **The reader of keys takes what counts as one**, and gives the key it holds. -/
theorem decode_eq_ok_iff {v : Value} {k : CoseKey} : decode v = .ok k ↔ HoldsKey v k := by
  constructor
  · intro h
    obtain ⟨w, hw, hk⟩ := bind_eq_ok.1 h
    rcases (WireItem.key.read_eq_ok_iff).1 hw with ⟨-, rfl⟩ | ⟨b, hb, hd⟩
    · unfold ofMap at hk
      split at hk
      · cases hk; exact .key _
      · cases hk; exact .map _ _
      · cases hk
    · -- bytes encode no structured key as such, so the map is taken apart anew
      unfold ofMap at hk
      split at hk
      · cases Cbor.onWire_decode? hd
      · cases hk; exact .encoded hb ⟨_, hd⟩
      · cases hk
  · intro h
    cases h with
    | key es => rfl
    | map flavour es => rfl
    | encoded hv hb =>
        obtain ⟨flavour, hd⟩ := hb
        refine bind_eq_ok.2 ⟨_, (WireItem.key.read_eq_ok_iff).2 (.inr ⟨_, hv, hd⟩), rfl⟩

end CoseKey

/-! ## Protected headers -/

namespace Header

/-- A protected header that can be read: no bytes at all, or the encoding of a map. -/
def IsReadable (b : Bytes) : Prop := b = [] ∨ ∃ es, Cbor.EncodesMap b es

theorem decode_bytes_nil : decode (.bytes []) = .ok [] := rfl

theorem decode_of_byteString? {v : Value} {b : Bytes} (h : v.byteString? = some b) :
    decode v = decode (.bytes b) := by
  cases v with
  | bytes _ | buffer _ => cases h; rfl
  | _ => cases h

theorem decode_bytes_of_ne_nil {b : Bytes} (h : b ≠ []) :
    decode (.bytes b) = WireItem.header.decode b >>= ofValue := by
  have hempty : (Value.bytes b).isEmpty = false := by simpa [Value.isEmpty, Value.length?] using h
  simp [decode, hempty, Value.byteString?]

theorem decode_failsOnly (b : Bytes) : FailsOnly IsDeserialization (decode (.bytes b)) := by
  by_cases h : b = []
  · rw [h]
    exact .ok _
  · rw [decode_bytes_of_ne_nil h]
    refine (WireItem.header.decode_failsOnly b).bind fun v _ => ?_
    unfold ofValue
    split
    · exact .ok _
    · exact .error rfl

theorem ne_nil_of_encodesMap {b : Bytes} {es : Entries} (h : Cbor.EncodesMap b es) : b ≠ [] := by
  rintro rfl
  obtain ⟨flavour, h⟩ := h
  cases h

theorem decode_of_encodesMap {b : Bytes} {es : Entries} (h : Cbor.EncodesMap b es) :
    decode (.bytes b) = .ok es := by
  rw [decode_bytes_of_ne_nil (ne_nil_of_encodesMap h)]
  obtain ⟨flavour, h⟩ := h
  exact bind_eq_ok.2 ⟨_, (WireItem.header.decode_eq_ok_iff).2 h, rfl⟩

theorem encodesMap_of_decode {b : Bytes} {es : Entries} (h : decode (.bytes b) = .ok es) :
    b = [] ∧ es = [] ∨ Cbor.EncodesMap b es := by
  by_cases hb : b = []
  · rw [hb, decode_bytes_nil] at h
    cases h
    exact .inl ⟨hb, rfl⟩
  · rw [decode_bytes_of_ne_nil hb] at h
    obtain ⟨v, hv, hes⟩ := bind_eq_ok.1 h
    have hd := (WireItem.header.decode_eq_ok_iff).1 hv
    unfold ofValue at hes
    split at hes
    · rename_i fs hfs
      cases hes
      obtain ⟨flavour, rfl⟩ := (Cbor.onWire_decode? hd).eq_map hfs
      exact .inr ⟨flavour, hd⟩
    · cases hes

theorem isReadable_iff {b : Bytes} : IsReadable b ↔ ∃ es, decode (.bytes b) = .ok es := by
  constructor
  · rintro (rfl | ⟨es, h⟩)
    · exact ⟨[], rfl⟩
    · exact ⟨es, decode_of_encodesMap h⟩
  · rintro ⟨es, h⟩
    rcases encodesMap_of_decode h with ⟨h, -⟩ | h
    · exact .inl h
    · exact .inr ⟨es, h⟩

end Header

/-! ## Signed messages -/

/-- **What counts as the array of a message**: four items, of which the first, third and fourth are
byte strings, the first of them a readable header, and the second is a map. -/
inductive HoldsParts : Value → SignedMessage → Prop
  | intro {v p u q s : Value} {header payload signature : Bytes} {es : Entries}
      (hv : v.items? = some [p, u, q, s]) (hp : p.byteString? = some header)
      (hu : u.entries? = some es) (hq : q.byteString? = some payload)
      (hs : s.byteString? = some signature) (hh : Header.IsReadable header) :
      HoldsParts v ⟨.bytes header, .map .plain es, .bytes payload, .bytes signature⟩

/-- The array of a message, with its tag or without. -/
inductive HoldsItem : Value → SignedMessage → Prop
  | bare {v : Value} {m : SignedMessage} (h : HoldsParts v m) : HoldsItem v m
  | tagged {v : Value} {m : SignedMessage} (h : HoldsParts v m) :
      HoldsItem (.tag Parameters.messageTag v) m

/-- **What counts as a signed message**: the message itself, its array with or without the tag, or
the encoding of either. -/
inductive HoldsMessage : Value → SignedMessage → Prop
  | message (m : SignedMessage) : HoldsMessage m.toValue m
  | item {v : Value} {m : SignedMessage} (h : HoldsItem v m) : HoldsMessage v m
  | encoded {v w : Value} {b : Bytes} {m : SignedMessage} (hv : v.byteString? = some b)
      (hb : Cbor.decode? b = some w) (h : HoldsItem w m) : HoldsMessage v m

/-- A message as reading gives it: byte strings and a map of its own, under a readable header. -/
inductive SignedMessage.WellFormed : SignedMessage → Prop
  | intro {header payload signature : Bytes} {es : Entries} (hh : Header.IsReadable header) :
      WellFormed ⟨.bytes header, .map .plain es, .bytes payload, .bytes signature⟩

/-- **No signed message put together by hand**: a value that is a message has the shape that reading
gives. -/
def Value.Vetted (v : Value) : Prop :=
  ∀ m, SignedMessage.ofValue? v = some m → m.WellFormed

/-- What bytes stand for was not put together by hand. -/
theorem Cbor.OnWire.vetted {v : Value} (h : Cbor.OnWire v) : v.Vetted := by
  intro m hm
  unfold SignedMessage.ofValue? at hm
  split at hm
  · cases h
  · cases hm

namespace SignedMessage

@[simp] theorem ofValue?_toValue (m : SignedMessage) : ofValue? m.toValue = some m := rfl

theorem ofValue?_eq_some_iff {v : Value} {m : SignedMessage} :
    ofValue? v = some m ↔ v = m.toValue := by
  constructor
  · intro h
    unfold ofValue? at h
    split at h
    · cases h
      rfl
    · cases h
  · rintro rfl
    rfl

theorem requirePart_eq_ok_iff (part : MessagePart) {v : Value} :
    requirePart part v = .ok () ↔ v.kindOf = part.kind := by
  unfold requirePart
  split <;> simp [*]

theorem requirePart_failsOnly (part : MessagePart) (v : Value) :
    FailsOnly IsDeserialization (requirePart part v) := by
  unfold requirePart
  split
  · exact .ok _
  · exact .error rfl

theorem ofArray_eq_ok_iff {v : Value} {m : SignedMessage} :
    ofArray v = .ok m ↔ HoldsParts v m := by
  constructor
  · intro h
    unfold ofArray at h
    split at h
    · rename_i p u q s hv
      obtain ⟨_, hp, h⟩ := bind_eq_ok.1 h
      obtain ⟨_, hu, h⟩ := bind_eq_ok.1 h
      obtain ⟨_, hq, h⟩ := bind_eq_ok.1 h
      obtain ⟨_, hs, h⟩ := bind_eq_ok.1 h
      obtain ⟨es, hes, h⟩ := bind_eq_ok.1 h
      obtain ⟨header, hp⟩ := Value.kindOf_eq_byteString_iff.1 ((requirePart_eq_ok_iff _).1 hp)
      obtain ⟨unprotectedEntries, hu⟩ := Value.kindOf_eq_map_iff.1 ((requirePart_eq_ok_iff _).1 hu)
      obtain ⟨payload, hq⟩ := Value.kindOf_eq_byteString_iff.1 ((requirePart_eq_ok_iff _).1 hq)
      obtain ⟨signature, hs⟩ := Value.kindOf_eq_byteString_iff.1 ((requirePart_eq_ok_iff _).1 hs)
      simp only [hp, hu, hq, hs, Option.getD_some] at h hes
      cases h
      exact .intro hv hp hu hq hs (Header.isReadable_iff.2 ⟨es, hes⟩)
    · cases h
  · intro h
    cases h with
    | @intro p u q s header payload signature es hv hp hu hq hs hh =>
        obtain ⟨fields, hfields⟩ := Header.isReadable_iff.1 hh
        have hpk := (requirePart_eq_ok_iff .protectedHeader).2
          (Value.kindOf_eq_byteString_iff.2 ⟨_, hp⟩)
        have huk := (requirePart_eq_ok_iff .unprotectedHeader).2
          (Value.kindOf_eq_map_iff.2 ⟨_, hu⟩)
        have hqk := (requirePart_eq_ok_iff .payload).2
          (Value.kindOf_eq_byteString_iff.2 ⟨_, hq⟩)
        have hsk := (requirePart_eq_ok_iff .signature).2
          (Value.kindOf_eq_byteString_iff.2 ⟨_, hs⟩)
        simp only [ofArray, hv, hpk, huk, hqk, hsk, hp, hu, hq, hs, Option.getD_some, hfields]
        rfl

theorem ofArray_failsOnly (v : Value) : FailsOnly IsDeserialization (ofArray v) := by
  unfold ofArray
  split
  · refine (requirePart_failsOnly _ _).bind fun _ _ => ?_
    refine (requirePart_failsOnly _ _).bind fun _ _ => ?_
    refine (requirePart_failsOnly _ _).bind fun _ _ => ?_
    refine (requirePart_failsOnly _ _).bind fun _ _ => ?_
    refine (Header.decode_failsOnly _).bind fun _ _ => ?_
    exact .ok _
  · exact .error rfl

theorem untagged_of_holdsParts {v : Value} {m : SignedMessage} (h : HoldsParts v m) :
    untagged v = .ok v := by
  cases h with
  | intro hv =>
      unfold untagged
      split
      · cases hv
      · rfl

/-- Without its tag, an item is the array of a message exactly when it counts as one. -/
theorem untagged_bind_ofArray_eq_ok_iff {v : Value} {m : SignedMessage} :
    untagged v >>= ofArray = .ok m ↔ HoldsItem v m := by
  constructor
  · intro h
    obtain ⟨w, hw, hm⟩ := bind_eq_ok.1 h
    have hparts := ofArray_eq_ok_iff.1 hm
    unfold untagged at hw
    split at hw
    · split at hw
      · rename_i hnumber
        cases hw
        rw [hnumber]
        exact .tagged hparts
      · cases hw
    · cases hw
      exact .bare hparts
  · intro h
    cases h with
    | bare h => exact bind_eq_ok.2 ⟨v, untagged_of_holdsParts h, ofArray_eq_ok_iff.2 h⟩
    | tagged h => exact bind_eq_ok.2 ⟨_, rfl, ofArray_eq_ok_iff.2 h⟩

theorem untagged_failsOnly (v : Value) : FailsOnly IsDeserialization (untagged v) := by
  unfold untagged
  split
  · split
    · exact .ok _
    · exact .error rfl
  · exact .ok _

theorem decode_failsOnly (v : Value) : FailsOnly IsDeserialization (decode v) := by
  unfold decode
  split
  · exact .ok _
  · refine (WireItem.message.read_failsOnly v).bind fun w _ => ?_
    exact (untagged_failsOnly w).bind fun x _ => ofArray_failsOnly x

theorem byteString?_of_holdsItem {v : Value} {m : SignedMessage} (h : HoldsItem v m) :
    v.byteString? = none ∧ ofValue? v = none := by
  cases h with
  | bare h =>
      cases h with
      | intro hv =>
          cases v with
          | list _ | tuple _ => exact ⟨rfl, rfl⟩
          | _ => cases hv
  | tagged h => exact ⟨rfl, rfl⟩

theorem decode_of_holdsItem {v : Value} {m : SignedMessage} (h : HoldsItem v m) :
    decode v = .ok m := by
  obtain ⟨hb, hn⟩ := byteString?_of_holdsItem h
  unfold decode
  rw [hn, WireItem.message.read_of_byteString?_eq_none hb]
  exact untagged_bind_ofArray_eq_ok_iff.2 h

theorem decode_of_encoded {v w : Value} {b : Bytes} {m : SignedMessage}
    (hv : v.byteString? = some b) (hb : Cbor.decode? b = some w) (h : HoldsItem w m) :
    decode v = .ok m := by
  have hn : ofValue? v = none := by
    cases v with
    | bytes _ | buffer _ => rfl
    | _ => cases hv
  have hr := (WireItem.message.read_eq_ok_iff).2 (.inr ⟨b, hv, hb⟩)
  unfold decode
  rw [hn, hr]
  exact untagged_bind_ofArray_eq_ok_iff.2 h

/-- **The reader of messages takes what counts as one**, and gives the message it holds. -/
theorem decode_eq_ok_iff {v : Value} {m : SignedMessage} :
    decode v = .ok m ↔ HoldsMessage v m := by
  constructor
  · intro h
    unfold decode at h
    split at h
    · rename_i n hn
      cases h
      rw [ofValue?_eq_some_iff.1 hn]
      exact .message m
    · obtain ⟨w, hw, hm⟩ := bind_eq_ok.1 h
      have hitem := untagged_bind_ofArray_eq_ok_iff.1 hm
      rcases (WireItem.message.read_eq_ok_iff).1 hw with ⟨-, rfl⟩ | ⟨b, hb, hd⟩
      · exact .item hitem
      · exact .encoded hb hd hitem
  · intro h
    cases h with
    | message => rfl
    | item h => exact decode_of_holdsItem h
    | encoded hv hb h => exact decode_of_encoded hv hb h

theorem holdsMessage_unique {v : Value} {m m' : SignedMessage} (h : HoldsMessage v m)
    (h' : HoldsMessage v m') : m = m' := by
  have hm := decode_eq_ok_iff.2 h
  rw [decode_eq_ok_iff.2 h'] at hm
  exact (Except.ok.inj hm).symm

/-- What the array of a message holds has the shape that reading gives. -/
theorem wellFormed_of_holdsItem {v : Value} {m : SignedMessage} (h : HoldsItem v m) :
    m.WellFormed := by
  cases h with
  | bare h | tagged h =>
      cases h with
      | intro _ _ _ _ _ hh => exact .intro hh

/-- **A message that is read is well formed**, unless it is handed over as such and was put
together by hand. -/
theorem wellFormed_of_holdsMessage {v : Value} {m : SignedMessage} (hv : v.Vetted)
    (h : HoldsMessage v m) : m.WellFormed := by
  cases h with
  | message => exact hv m rfl
  | item h => exact wellFormed_of_holdsItem h
  | encoded _ _ h => exact wellFormed_of_holdsItem h

/-- **The reader of messages is exact.** It takes a value exactly if the value counts as a message,
and gives the one message that it holds. It refuses every other value, and whatever it refuses, it
refuses with the structural error of input that cannot be read. -/
theorem decode_exact (v : Value) :
    (∀ m, decode v = .ok m ↔ HoldsMessage v m) ∧
      ((¬ ∃ m, HoldsMessage v m) ↔ ∃ e, decode v = .error e) ∧
      ∀ e, decode v = .error e →
        e.family? = some .structural ∧ e.reason? = some .deserialization := by
  refine ⟨fun m => decode_eq_ok_iff, ⟨fun h => ?_, ?_⟩, fun e he => ?_⟩
  · rcases (decode_failsOnly v).ok_or_error with ⟨m, hm⟩ | ⟨e, he, -⟩
    · exact absurd ⟨m, decode_eq_ok_iff.1 hm⟩ h
    · exact ⟨e, he⟩
  · rintro ⟨e, he⟩ ⟨m, hm⟩
    rw [decode_eq_ok_iff.2 hm] at he
    cases he
  · have hreason : e.reason? = some .deserialization := decode_failsOnly v e he
    refine ⟨?_, hreason⟩
    rw [Error.family?, hreason]
    rfl

/-- Only one tag is taken off: under two of them, an array of four parts is no message. -/
example : decode (.tag 18 (.tag 18 (.list [.bytes [], .map .plain [], .bytes [], .bytes []])))
    = .error (.messageShape .tag) := rfl

end SignedMessage

end DeviceTrust
