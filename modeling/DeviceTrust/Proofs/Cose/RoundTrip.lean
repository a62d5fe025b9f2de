import DeviceTrust.Proofs.Cbor.RoundTrip
import DeviceTrust.Proofs.Cose.Forms
import DeviceTrust.Proofs.Cose.Key

/-!
# Keys and messages on the wire

A structured key with integers, texts and byte strings as labels and plain values under them
(`CoseKey.Portable`) comes back from its encoding with its labels in place and its values as they
are read back (`CoseKey.decode_encode`). A message is handed over as such, encoded, as a tagged
array or as a bare one (`SignedMessage.Form`); all of these hold the same signed parts
(`SignedMessage.holdsMessage_of_form`).
-/

set_option autoImplicit false

namespace DeviceTrust

/-! ## Labels and contents -/

/-- A label that comes back from the wire as it is. -/
inductive IsLabel : Value → Prop
  | int (n : Int) : IsLabel (.int n)
  | text (s : String) : IsLabel (.text s)
  | bytes (b : Bytes) : IsLabel (.bytes b)

namespace IsLabel

variable {label : Value}

theorem agrees_self (h : IsLabel label) : label.agrees label = true := by
  cases h with
  | int n => exact Value.int_agrees_int.2 rfl
  | text s | bytes b => simp [Value.agrees, Value.same, Value.byteString?]

theorem int_agrees_iff (h : IsLabel label) {n : Int} :
    (Value.int n).agrees label = true ↔ label = .int n := by
  rw [Value.int_agrees]
  cases h with
  | int m =>
      rw [← Value.int_agrees, Value.int_agrees_int, Value.int.injEq]
      exact eq_comm
  | text s | bytes b => exact ⟨fun h => (by cases h), fun h => (by cases h)⟩

theorem plain (h : IsLabel label) (depth : Nat) : Cbor.Plain (depth + 1) label := by
  cases h with
  | int n => exact .bigInt n
  | text s => exact .text s
  | bytes b => exact .bytes b

theorem asRead (h : IsLabel label) (frozen : Bool) : Cbor.asRead label frozen = label := by
  cases h <;> rfl

end IsLabel

/-- A number of bytes that can be counted fits in the head of an item. -/
theorem Value.lt_of_le_greatestCount {n : Nat} (h : (n : Int) ≤ greatestCount) : n < 2 ^ 64 := by
  unfold greatestCount at h
  omega

namespace Cbor

theorem asRead_of_byteString? {v : Value} {b : Bytes} (h : v.byteString? = some b)
    (frozen : Bool) : asRead v frozen = .bytes b := by
  cases v with
  | bytes _ | buffer _ => cases h; rfl
  | _ => cases h

theorem Plain.of_byteString? {depth : Nat} {v : Value} {b : Bytes} (h : v.byteString? = some b) :
    Plain depth v := by
  cases v with
  | bytes b => exact .bytes b
  | buffer b => exact .buffer b
  | _ => cases h

theorem Plain.withFlavour {depth : Nat} {flavour : MapFlavour} {es : Entries}
    (h : Plain depth (.map flavour es)) (flavour' : MapFlavour) :
    Plain depth (.map flavour' es) := by
  cases h with
  | noEntries => exact .noEntries flavour'
  | map _ hk hv => exact .map flavour' hk hv

theorem plainNumber_asRead (v : Value) (frozen : Bool) :
    (asRead v frozen).plainNumber = asRead v frozen := by
  cases v with
  | list items | tuple items => cases frozen <;> rfl
  | _ => rfl

theorem asRead_plainNumber (v : Value) (frozen : Bool) :
    asRead v.plainNumber frozen = asRead v frozen := by
  cases v <;> rfl

end Cbor

namespace Entries

variable {es : Entries}

/-- **Every label is an integer, a text or a byte string**, a named number or not. -/
def Labelled (es : Entries) : Prop := ∀ e ∈ es, IsLabel e.1.plainNumber

theorem Labelled.asRead (h : es.Labelled) {e : Value × Value} (he : e ∈ es) (frozen : Bool) :
    Cbor.asRead e.1 frozen = e.1.plainNumber := by
  rw [← Cbor.asRead_plainNumber, (h e he).asRead]

end Entries

/-! ## Keys -/

namespace CoseKey

variable {k : CoseKey} {depth : Nat} {b : Bytes}

/-- **A key that can be handed over**: in order, with labels that come back as they are, and plain
values under them. -/
structure Portable (depth : Nat) (k : CoseKey) : Prop where
  normal : k.Normal
  labels : ∀ e ∈ k.parameters, IsLabel e.1
  contents : ∀ e ∈ k.parameters, Cbor.Plain depth e.2

def asRead (k : CoseKey) : CoseKey :=
  ⟨k.parameters.map fun e => (e.1, Cbor.asRead e.2 false)⟩

theorem portable_new {es : Entries} (hl : ∀ e ∈ es, IsLabel e.1.plainNumber)
    (hc : ∀ e ∈ es, Cbor.Plain depth e.2) : (new es).Portable depth := by
  have hentries : ∀ e ∈ (new es).parameters, IsLabel e.1 ∧ Cbor.Plain depth e.2 := by
    refine Entries.ofList_forall fun e he => ?_
    obtain ⟨x, hx, rfl⟩ := List.mem_map.1 he
    exact ⟨hl x hx, (hc x hx).plainNumber⟩
  exact ⟨normal_new es, fun e he => (hentries e he).1, fun e he => (hentries e he).2⟩

theorem Portable.of_subset (h : k.Portable depth) {es : Entries} (hd : es.Distinct)
    (hes : ∀ e ∈ es, e ∈ k.parameters) : Portable depth ⟨es⟩ :=
  ⟨⟨hd, fun e he => h.normal.plain e (hes e he)⟩, fun e he => h.labels e (hes e he),
    fun e he => h.contents e (hes e he)⟩

theorem Portable.publicKey (h : k.Portable depth) : k.publicKey.Portable depth :=
  h.of_subset (h.normal.distinct.sublist (List.filter_sublist.map _))
    fun _ he => (List.mem_filter.1 he).1

/-- **Every portable key has an encoding.** -/
theorem Portable.exists_encode (h : k.Portable depth) : ∃ b, k.encode = .ok b := by
  have hentries : ∃ bs, Cbor.encodeEntries? k.parameters = some bs :=
    Cbor.exists_encodeEntries? (fun e he => Cbor.exists_encode? ((h.labels e he).plain 0))
      fun e he => Cbor.exists_encode? (h.contents e he)
  obtain ⟨bs, hbs⟩ := hentries
  exact ⟨_, by rw [encode, Cbor.encode?, hbs]; rfl⟩

theorem encode_eq_ok_iff : k.encode = .ok b ↔ Cbor.encode? (.map .plain k.parameters) = some b := by
  unfold encode
  split <;> simp_all

theorem Normal.asRead (h : k.Normal) : k.asRead.Normal := by
  refine ⟨?_, ?_⟩
  · have hlabels : k.asRead.parameters.labels = k.parameters.labels := by
      simp [CoseKey.asRead, Entries.labels]
    rw [Entries.Distinct, hlabels]
    exact h.distinct
  · intro e he
    obtain ⟨x, hx, rfl⟩ := List.mem_map.1 he
    exact ⟨(h.plain x hx).1, Cbor.plainNumber_asRead x.2 false⟩

theorem Portable.labels_asRead (h : k.Portable depth) : ∀ e ∈ k.asRead.parameters, IsLabel e.1 := by
  intro e he
  obtain ⟨x, hx, rfl⟩ := List.mem_map.1 he
  exact h.labels x hx

/-- The map of a key's parameters is plain, one level above what stands under them. -/
theorem Portable.plain (h : k.Portable depth) {n : Nat} (hd : depth < n) (hn : 1 < n) :
    Cbor.Plain n (.map .plain k.parameters) := by
  obtain ⟨n, rfl⟩ : ∃ inner, n = inner + 1 := ⟨n - 1, by omega⟩
  refine .map .plain (fun e he => ?_) fun e he => ?_
  · exact ((h.labels e he).plain 0).mono (by omega)
  · exact (h.contents e he).mono (by omega)

theorem Portable.asRead_map (h : k.Portable depth) :
    Cbor.asRead (.map .plain k.parameters) false = .map .plain k.asRead.parameters := by
  have hentries : Cbor.entriesAsRead k.parameters false = k.asRead.parameters := by
    rw [Cbor.entriesAsRead_eq_map]
    refine List.map_congr_left fun e he => ?_
    rw [(h.labels e he).asRead]
  rw [Cbor.asRead, hentries, Cbor.mapOf, Entries.ofList_eq_self h.normal.asRead.distinct]
  rfl

/-- **The encoding of a key is the map of its parameters as they are read back.** -/
theorem Portable.encodesMap (h : k.Portable depth) (hd : depth < Cbor.depthLimit)
    (hb : k.encode = .ok b) (hlength : b.length < 2 ^ 64) :
    Cbor.EncodesMap b k.asRead.parameters := by
  have hplain := h.plain hd (by decide : 1 < Cbor.depthLimit)
  have hdecode := Cbor.decode?_encode hplain (encode_eq_ok_iff.1 hb) hlength
  exact ⟨.plain, hdecode.trans (congrArg some h.asRead_map)⟩

/-- **Decoding undoes encoding** for portable keys within the nesting limit. -/
theorem Portable.decode_encode (h : k.Portable depth) (hd : depth < Cbor.depthLimit)
    (hb : k.encode = .ok b) (hlength : b.length < 2 ^ 64) : decode (.bytes b) = .ok k.asRead := by
  have hnew : new k.asRead.parameters = k.asRead := new_eq_of_normal h.normal.asRead
  rw [decode_eq_ok_iff, ← hnew]
  exact .encoded rfl (h.encodesMap hd hb hlength)

/-- What is found under an integer among parameters with such labels is what stands there. -/
theorem find?_int_eq_some_iff (hl : ∀ e ∈ k.parameters, IsLabel e.1) (hd : k.parameters.Distinct)
    {n : Int} {v : Value} : k.find? (.int n) = some v ↔ (.int n, v) ∈ k.parameters := by
  constructor
  · intro h
    obtain ⟨label, hmem, hagrees⟩ := Entries.exists_mem_of_find?_eq_some h
    have hlabel : label = .int n := (hl (label, v) hmem).int_agrees_iff.1 hagrees
    rwa [hlabel] at hmem
  · intro h
    exact Entries.find?_of_mem hd h (Value.int_agrees_int.2 rfl)

theorem get_asRead (k : CoseKey) (label : KeyLabel) :
    k.asRead.get label = Cbor.asRead (k.get label) false := by
  unfold get find? asRead
  rw [Entries.find?_map fun v => Cbor.asRead v false]
  cases Entries.find? k.parameters (.int label.number) <;> rfl

end CoseKey

/-! ## Messages -/

namespace SignedMessage

/-- **The forms in which a message is handed over**: as such, encoded, as the tagged array, or as
the bare array of either sort. -/
inductive Form (m : SignedMessage) : Value → Prop
  | message : Form m m.toValue
  | encoded {b : Bytes} {v : Value} (h : m.encode = .ok b) (hv : v.byteString? = some b) : Form m v
  | tagged {v : Value} (h : m.toTagged = .ok v) : Form m v
  | bare {items : List Value} {v : Value}
      (h : m.toTagged = .ok (.tag Parameters.messageTag (.list items)))
      (hv : v.items? = some items) : Form m v

variable {header payload signature : Bytes} {es : Entries} {m : SignedMessage} {v : Value}

theorem toTagged_eq (header payload signature : Value) (flavour : MapFlavour) (es : Entries) :
    toTagged ⟨header, .map flavour es, payload, signature⟩
      = .ok (.tag Parameters.messageTag (.list [header, .map .plain es, payload, signature])) := rfl

theorem encode_eq_ok_iff {b : Bytes} :
    m.encode = .ok b ↔ ∃ w, m.toTagged = .ok w ∧ Cbor.encode? w = some b := by
  unfold encode
  rw [bind_eq_ok]
  refine exists_congr fun w => and_congr_right fun _ => ?_
  split <;> simp_all

theorem encode_eq (header payload signature : Bytes) :
    encode ⟨.bytes header, .map .plain [], .bytes payload, .bytes signature⟩
      = .ok ([0xd2, 0x84] ++ Cbor.encodeBytes header ++ [0xa0] ++ Cbor.encodeBytes payload
        ++ Cbor.encodeBytes signature) := by
  have htag : Cbor.head 6 Parameters.messageTag = [0xd2] := rfl
  have harray : Cbor.head 4 4 = [0x84] := rfl
  have hmap : Cbor.head 5 0 = [0xa0] := rfl
  refine encode_eq_ok_iff.2 ⟨_, toTagged_eq _ _ _ _ _, ?_⟩
  simp [Cbor.encode?, Cbor.encodeItems?, Cbor.encodeEntries?, htag, harray, hmap]

/-- A form of a well-formed message was not put together by hand. -/
theorem vetted_of_form (hm : m.WellFormed) (h : m.Form v) : v.Vetted := by
  intro n hn
  have hv := ofValue?_eq_some_iff.1 hn
  cases h with
  | message =>
      rw [ofValue?_toValue] at hn
      cases hn
      exact hm
  | encoded _ hb =>
      rw [hv] at hb
      cases hb
  | tagged h =>
      cases hm
      rw [toTagged_eq, hv] at h
      cases h
  | bare _ hi =>
      rw [hv] at hi
      cases hi

/-- **The signed parts of a message are these byte strings**, of either sort. -/
structure HasParts (m : SignedMessage) (header payload signature : Bytes) : Prop where
  protectedHeader : m.protectedHeader.byteString? = some header
  payload : m.payload.byteString? = some payload
  signature : m.signature.byteString? = some signature

/-- **A message that can be handed over**: byte strings under a readable header, and a plain map as
the unprotected header, two levels below the limit. -/
structure Portable (m : SignedMessage) (header payload signature : Bytes) (es : Entries) : Prop
    extends HasParts m header payload signature where
  readable : Header.IsReadable header
  unprotectedHeader : ∃ flavour, m.unprotectedHeader = .map flavour es
  plain : ∃ depth, depth + 2 ≤ Cbor.depthLimit ∧ Cbor.Plain depth (.map .plain es)

theorem Portable.toTagged (h : m.Portable header payload signature es) :
    m.toTagged = .ok (.tag Parameters.messageTag
      (.list [m.protectedHeader, .map .plain es, m.payload, m.signature])) := by
  obtain ⟨flavour, hu⟩ := h.unprotectedHeader
  obtain ⟨p, u, q, s⟩ := m
  cases hu
  rfl

theorem Portable.plain_toTagged (h : m.Portable header payload signature es) :
    Cbor.Plain Cbor.depthLimit (.tag Parameters.messageTag
      (.list [m.protectedHeader, .map .plain es, m.payload, m.signature])) := by
  obtain ⟨depth, hdepth, hplain⟩ := h.plain
  refine Cbor.Plain.mono (.tag (by decide) (by decide) (.list fun x hx => ?_)) hdepth
  simp only [List.mem_cons, List.not_mem_nil, or_false] at hx
  rcases hx with rfl | rfl | rfl | rfl
  · exact .of_byteString? h.protectedHeader
  · exact hplain
  · exact .of_byteString? h.payload
  · exact .of_byteString? h.signature

theorem Portable.exists_encode (h : m.Portable header payload signature es) :
    ∃ b, m.encode = .ok b := by
  obtain ⟨b, hb⟩ := Cbor.exists_encode? h.plain_toTagged
  exact ⟨b, encode_eq_ok_iff.2 ⟨_, h.toTagged, hb⟩⟩

/-- **Every form of a message that can be handed over is the message itself or holds its signed
parts**, with the unprotected header as it is or as it is read back. -/
theorem Portable.holdsMessage_of_form (hm : m.Portable header payload signature es)
    (hlength : ∀ b, m.encode = .ok b → b.length < 2 ^ 64) (h : m.Form v) :
    v = m.toValue ∨ ∃ u, (u = es ∨ u = Entries.ofList (Cbor.entriesAsRead es true)) ∧
      HoldsMessage v ⟨.bytes header, .map .plain u, .bytes payload, .bytes signature⟩ := by
  obtain ⟨hp, hq, hs⟩ := hm.toHasParts
  have htagged := hm.toTagged
  cases h with
  | message => exact .inl rfl
  | tagged h =>
      cases htagged.symm.trans h
      exact .inr ⟨es, .inl rfl, .item (.tagged (.intro rfl hp rfl hq hs hm.readable))⟩
  | bare h hi =>
      cases htagged.symm.trans h
      exact .inr ⟨es, .inl rfl, .item (.bare (.intro hi hp rfl hq hs hm.readable))⟩
  | @encoded b _ h hb =>
      obtain ⟨w, hw, hencode⟩ := encode_eq_ok_iff.1 h
      cases htagged.symm.trans hw
      -- under the tag the array and the map come back as those that cannot change
      have hdecode := Cbor.decode?_encode hm.plain_toTagged hencode (hlength b h)
      refine .inr ⟨_, .inr rfl, .encoded hb hdecode (.tagged (.intro rfl ?_ rfl ?_ ?_ hm.readable))⟩
      · rw [Cbor.asRead_of_byteString? hp]
        rfl
      · rw [Cbor.asRead_of_byteString? hq]
        rfl
      · rw [Cbor.asRead_of_byteString? hs]
        rfl

/-- **Every form of a message holds the signed parts of it**, if its header can be read and its
unprotected header comes back from the wire. -/
theorem holdsMessage_of_form {depth : Nat} (hh : Header.IsReadable header)
    (hes : Cbor.Plain depth (.map .plain es)) (hd : depth + 2 ≤ Cbor.depthLimit)
    (hm : m = ⟨.bytes header, .map .plain es, .bytes payload, .bytes signature⟩)
    (hlength : ∀ b, m.encode = .ok b → b.length < 2 ^ 64) (h : m.Form v) :
    ∃ u, HoldsMessage v ⟨.bytes header, u, .bytes payload, .bytes signature⟩ := by
  have hportable : m.Portable header payload signature es := by
    rw [hm]
    exact ⟨⟨rfl, rfl, rfl⟩, hh, ⟨.plain, rfl⟩, depth, hd, hes⟩
  rcases hportable.holdsMessage_of_form hlength h with hv | ⟨u, -, hv⟩
  · rw [hv, hm]
    exact ⟨_, .message _⟩
  · exact ⟨_, hv⟩

end SignedMessage

end DeviceTrust
