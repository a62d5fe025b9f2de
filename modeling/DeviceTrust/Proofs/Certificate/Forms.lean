import DeviceTrust.Proofs.Cbor.Essence
import DeviceTrust.Proofs.Cbor.Nesting
import DeviceTrust.Proofs.Certificate.Chain
import DeviceTrust.Proofs.Certificate.Verification
import DeviceTrust.Proofs.Cose.ReadBack

/-!
# One message in many forms

A message can be handed over as such, encoded, as a tagged array or as a bare one. Whatever the form,
what is read has the same signed parts, so that it is the same message and the same bytes are signed;
and its unprotected header says the same (`SignedMessage.decode_of_form`).

Bytes that are accepted need not be those that would be written. They may lack the tag, or tell
lengths in another way. Written anew, they give a message with the same signed parts, and nothing in
the library tells the two apart (`Certificate.Interchangeable`).
-/

set_option autoImplicit false

namespace DeviceTrust

namespace SignedMessage

variable {m m' : SignedMessage} {header payload signature : Bytes} {es : Entries} {v : Value}

/-! ## Messages with the same parts -/

/-- **Messages with the same signed parts are the same message.** -/
theorem HasParts.same (h : m.HasParts header payload signature)
    (h' : m'.HasParts header payload signature) : m.toValue.same m'.toValue = true := by
  have hp := (Value.same_iff_of_byteString? h.protectedHeader h'.protectedHeader).2 rfl
  have hq := (Value.same_iff_of_byteString? h.payload h'.payload).2 rfl
  have hs := (Value.same_iff_of_byteString? h.signature h'.signature).2 rfl
  simp only [toValue, Value.same, hp, hq, hs, Bool.or_true, Bool.and_self]

/-- **The same bytes are signed in them**, with whatever external data. -/
theorem HasParts.toBeSigned_eq (h : m.HasParts header payload signature)
    (h' : m'.HasParts header payload signature) (external : Value) :
    m.toBeSigned external = m'.toBeSigned external := by
  simp only [toBeSigned, signedBytes, signedValue, Cbor.encode?, Cbor.encodeItems?,
    Cbor.encode?_of_byteString? h.protectedHeader, Cbor.encode?_of_byteString? h'.protectedHeader,
    Cbor.encode?_of_byteString? h.payload, Cbor.encode?_of_byteString? h'.payload,
    List.length_cons, List.length_nil]

/-- **Every form of a message is read**, as a message with the same signed parts and an unprotected
header that says the same. -/
theorem decode_of_form (hm : m.Portable header payload signature es)
    (htidy : m.unprotectedHeader.Tidy) (hlength : ∀ b, m.encode = .ok b → b.length < 2 ^ 64)
    (h : m.Form v) :
    ∃ m', decode v = .ok m' ∧ m'.HasParts header payload signature ∧
      m'.unprotectedHeader.essence = m.unprotectedHeader.essence := by
  obtain ⟨flavour, hu⟩ := hm.unprotectedHeader
  rw [hu] at htidy ⊢
  rcases hm.holdsMessage_of_form hlength h with rfl | ⟨u, rfl | rfl, hv⟩
  · exact ⟨m, rfl, hm.toHasParts, by rw [hu]⟩
  · exact ⟨_, decode_eq_ok_iff.2 hv, ⟨rfl, rfl, rfl⟩, rfl⟩
  · exact ⟨_, decode_eq_ok_iff.2 hv, ⟨rfl, rfl, rfl⟩, Cbor.essence_asRead htidy true⟩

end SignedMessage

namespace Certificate

/-! ## Certificates that stand for each other -/

/-- **Certificates that stand for each other**: wherever one is handed over, the other gives the same
outcome and leaves the same records. -/
structure Interchangeable (v v' : Value) : Prop where
  candidate : ∀ p pr verifying expected,
    verify p pr verifying v expected = verify p pr verifying v' expected
  verifying : ∀ p pr candidate expected,
    verify p pr v candidate expected = verify p pr v' candidate expected
  device : ∀ p pr root chain chain', Chain.HoldsEntries chain [root, v] →
    Chain.HoldsEntries chain' [root, v'] → Chain.validate p pr chain = Chain.validate p pr chain'
  extracted : ∀ p c, extract p c v = extract p c v'

/-- **Two values that hold messages with the same signed parts stand for each other.** -/
theorem interchangeable_of_sameSigned {v v' : Value} {m m' : SignedMessage}
    (hv : SignedMessage.decode v = .ok m) (hv' : SignedMessage.decode v' = .ok m')
    (h : m.SameSigned m') : Interchangeable v v' := by
  obtain ⟨header, u, payload, signature⟩ := m
  obtain ⟨header', u', payload', signature'⟩ := m'
  obtain ⟨rfl, rfl, rfl⟩ := h
  -- nothing that follows the reading asks for the unprotected header
  refine ⟨fun p pr verifying expected => ?_, fun p pr candidate expected => ?_,
    fun p pr root chain chain' hc hc' => ?_, fun p c => ?_⟩
  · unfold verify
    rw [hv, hv']
    rfl
  · unfold verify
    rw [hv, hv']
    rfl
  · have hlink : Chain.linkHolds p pr root v = Chain.linkHolds p pr root v' := by
      unfold Chain.linkHolds
      rw [hv, hv']
      rfl
    unfold Chain.validate
    rw [Chain.entries_eq_ok_iff.2 hc, Chain.entries_eq_ok_iff.2 hc']
    show (Chain.linkHolds p pr root v).mapError Chain.reworded >>= _ = _
    rw [hlink]
    rfl
  · unfold extract
    rw [hv, hv']
    rfl

end Certificate

namespace SignedMessage

variable {m : SignedMessage} {v : Value}

/-! ## Room for the tag -/

/-- **The array of a message takes one level more** than its unprotected header. -/
theorem plain_of_holdsParts {depth : Nat} (hw : Cbor.OnWire v) (h : HoldsParts v m)
    (hplain : Cbor.Plain depth m.unprotectedHeader) : Cbor.Plain (depth + 1) v := by
  cases h with
  | @intro p u q s _ _ _ es hv hp hu hq hs _ =>
      obtain ⟨flavour, rfl⟩ := (hw.of_items? hv u (by simp)).eq_map hu
      have hitems : ∀ x ∈ [p, .map flavour es, q, s], Cbor.Plain depth x := by
        intro x hx
        simp only [List.mem_cons, List.not_mem_nil, or_false] at hx
        rcases hx with rfl | rfl | rfl | rfl
        · exact .of_byteString? hp
        · exact hplain.withFlavour flavour
        · exact .of_byteString? hq
        · exact .of_byteString? hs
      cases v with
      | list items => cases hv; exact .list hitems
      | tuple items => cases hv; exact .tuple hitems
      | _ => cases hv

/-- The unprotected header takes one level less than the array. -/
theorem plain_unprotectedHeader {depth : Nat} (h : HoldsParts v m) (hplain : Cbor.Plain depth v) :
    ∃ d, d + 1 = depth ∧ Cbor.Plain d m.unprotectedHeader := by
  cases h with
  | @intro p u q s _ _ _ es hv _ hu _ _ _ =>
      -- what is plain is no structured key, so that an item with entries is a map
      have hitem : ∀ {d : Nat}, Cbor.Plain d u → Cbor.Plain d (.map .plain es) := by
        intro d hd
        cases u with
        | map _ _ => cases hu; exact hd.withFlavour .plain
        | coseKey _ => cases hd
        | _ => cases hu
      cases hplain with
      | list hitems | tuple hitems => cases hv; exact ⟨_, rfl, hitem (hitems u (by simp))⟩
      | _ => cases hv

/-- **A message under the tag leaves room for the tag**: bytes are read no deeper than the limit of
nesting, so what was read from them fits when it is written. -/
theorem fits_of_decode?_tag {depth : Nat} {b : Bytes} {content : Value}
    (hb : Cbor.decode? b = some (.tag Parameters.messageTag content)) (h : HoldsParts content m)
    (hplain : Cbor.Plain depth m.unprotectedHeader) :
    ∃ d, d + 2 ≤ Cbor.depthLimit ∧ Cbor.Plain d m.unprotectedHeader := by
  have hcontent : Cbor.OnWire content := by
    cases Cbor.onWire_decode? hb with
    | tag _ hw => exact hw
  have hwithin := Cbor.plain_of_decode? hb
    (.tag (by decide) (by decide) (plain_of_holdsParts hcontent h hplain))
  generalize Cbor.depthLimit = limit at hwithin ⊢
  cases hwithin with
  | tag _ _ harray =>
      obtain ⟨d, rfl, hd⟩ := plain_unprotectedHeader h harray
      exact ⟨d, le_rfl, hd⟩

/-- **Room for the tag**: two levels above an unprotected header that is nested to a depth, or bytes
that have the tag already. -/
def HasRoom (b : Bytes) (depth : Nat) : Prop :=
  depth + 2 ≤ Cbor.depthLimit ∨
    ∃ content, Cbor.decode? b = some (.tag Parameters.messageTag content)

theorem HasRoom.fits {v : Value} {b : Bytes} {depth : Nat} (h : HasRoom b depth)
    (hv : v.byteString? = some b) (hm : HoldsMessage v m)
    (hplain : Cbor.Plain depth m.unprotectedHeader) :
    ∃ d, d + 2 ≤ Cbor.depthLimit ∧ Cbor.Plain d m.unprotectedHeader := by
  rcases h with hd | ⟨content, hcontent⟩
  · exact ⟨depth, hd, hplain⟩
  · cases hm with
    | message => cases hv
    | item hitem => rw [(byteString?_of_holdsItem hitem).1] at hv; cases hv
    | encoded hb hw hitem =>
        cases hv.symm.trans hb
        cases hw.symm.trans hcontent
        cases hitem with
        | bare h => cases h with
          | intro hi => cases hi
        | tagged h => exact fits_of_decode?_tag hcontent h hplain

/-! ## There and back -/

/-- A message that was read and has a plain unprotected header can be handed over. -/
theorem portable_of_decode {v : Value} {b : Bytes} {m : SignedMessage} {depth : Nat}
    (hv : v.byteString? = some b) (hm : decode v = .ok m)
    (hplain : Cbor.Plain depth m.unprotectedHeader) (hd : HasRoom b depth) :
    ∃ header payload signature es,
      m = ⟨.bytes header, .map .plain es, .bytes payload, .bytes signature⟩ ∧
        m.Portable header payload signature es := by
  have hvetted : v.Vetted := by
    intro n hn
    rw [ofValue?_eq_some_iff.1 hn] at hv
    cases hv
  have hholds := decode_eq_ok_iff.1 hm
  have hfits := hd.fits hv hholds hplain
  cases wellFormed_of_holdsMessage hvetted hholds with
  | @intro header payload signature es hh =>
      exact ⟨header, payload, signature, es, rfl, ⟨rfl, rfl, rfl⟩, hh, ⟨.plain, rfl⟩, hfits⟩

/-- **Bytes that are accepted can be written anew.** What is written is read with the same signed
parts, and the two stand for each other. -/
theorem decode_encode_of_decode {v : Value} {b : Bytes} {m : SignedMessage} {depth : Nat}
    (hv : v.byteString? = some b) (hm : decode v = .ok m)
    (hplain : Cbor.Plain depth m.unprotectedHeader) (hd : HasRoom b depth)
    (hlength : ∀ b', m.encode = .ok b' → b'.length < 2 ^ 64) :
    ∃ b', m.encode = .ok b' ∧ ∀ v', v'.byteString? = some b' →
      ∃ m', decode v' = .ok m' ∧ m.SameSigned m' ∧ Certificate.Interchangeable v v' := by
  obtain ⟨header, payload, signature, es, hparts, hportable⟩ := portable_of_decode hv hm hplain hd
  obtain ⟨b', hb'⟩ := hportable.exists_encode
  refine ⟨b', hb', fun v' hv' => ?_⟩
  have hform : m.Form v' := .encoded hb' hv'
  rcases hportable.holdsMessage_of_form hlength hform with rfl | ⟨u, -, hholds⟩
  · cases hv'
  · have hread := decode_eq_ok_iff.2 hholds
    have hsame : m.SameSigned ⟨.bytes header, .map .plain u, .bytes payload, .bytes signature⟩ := by
      rw [hparts]
      exact ⟨rfl, rfl, rfl⟩
    exact ⟨_, hread, hsame, Certificate.interchangeable_of_sameSigned hm hread hsame⟩

/-- **Messages survive the wire, in whatever form.** A message of byte strings, with a readable
protected header and a plain unprotected one whose maps are in order, has an encoding and a tagged
array; and its encoding, the tagged array, the bare array of either sort and the message itself are
all read as the same message: with the same signed parts, the same entries in its unprotected header,
and the same bytes to be signed.

Moreover, whatever bytes are accepted as a message with a plain unprotected header, the encoding of
this message is read with the same three signed parts, and verification, validation and extraction
give the same outcome for both.

In both cases what is written has to have a length that can be counted and to stay within the limit of
nesting, of which the tag and the array take two levels. Bytes that have the tag already do stay within
it. -/
theorem round_trip :
    (∀ (m : SignedMessage) (header payload signature : Bytes) (es : Entries),
      m.Portable header payload signature es → m.unprotectedHeader.Tidy →
      (∀ b, m.encode = .ok b → (b.length : Int) ≤ Value.greatestCount) →
      (∃ b, m.encode = .ok b) ∧
      (∃ items, m.toTagged = .ok (.tag Parameters.messageTag (.list items))) ∧
      ∀ v, m.Form v → ∃ m', decode v = .ok m' ∧ m'.HasParts header payload signature ∧
        m'.toValue.same m.toValue = true ∧
        m'.unprotectedHeader.essence = m.unprotectedHeader.essence ∧
        ∀ external, m'.toBeSigned external = m.toBeSigned external) ∧
    ∀ (v : Value) (b : Bytes) (m : SignedMessage) (depth : Nat), v.byteString? = some b →
      decode v = .ok m → Cbor.Plain depth m.unprotectedHeader → HasRoom b depth →
      (∀ b', m.encode = .ok b' → (b'.length : Int) ≤ Value.greatestCount) →
      ∃ b', m.encode = .ok b' ∧ ∀ v', v'.byteString? = some b' →
        ∃ m', decode v' = .ok m' ∧ m.SameSigned m' ∧ Certificate.Interchangeable v v' := by
  have hfits : ∀ {m : SignedMessage},
      (∀ b, m.encode = .ok b → (b.length : Int) ≤ Value.greatestCount) →
        ∀ b, m.encode = .ok b → b.length < 2 ^ 64 := by
    intro m hcount b hb
    exact Value.lt_of_le_greatestCount (hcount b hb)
  refine ⟨?_, ?_⟩
  · intro m header payload signature es hm htidy hcount
    refine ⟨hm.exists_encode, ⟨_, hm.toTagged⟩, fun v hv => ?_⟩
    obtain ⟨m', hread, hparts, hsays⟩ := decode_of_form hm htidy (hfits hcount) hv
    exact ⟨m', hread, hparts, hparts.same hm.toHasParts, hsays,
      hparts.toBeSigned_eq hm.toHasParts⟩
  · intro v b m depth hv hm hplain hd hcount
    exact decode_encode_of_decode hv hm hplain hd (hfits hcount)

/-- A message whose header can be overwritten and whose unprotected header cannot change. -/
def unsigned : SignedMessage :=
  ⟨.buffer [0xa1, 0x01, 0x27], .map .frozen [(.int 4, .list [.bytes [7]])], .bytes [], .bytes []⟩

/-- Bytes of a message like it: the bare array, with every length told by an end mark. -/
def openEnded : Bytes :=
  [0x9f, 0x5f, 0x43, 0xa1, 0x01, 0x27, 0xff, 0xbf, 0x04, 0x9f, 0x41, 0x07, 0xff, 0xff, 0x40, 0x40,
    0xff]

theorem portable_unsigned :
    unsigned.Portable [0xa1, 0x01, 0x27] [] [] [(.int 4, .list [.bytes [7]])] := by
  refine ⟨⟨rfl, rfl, rfl⟩, .inr ⟨[(.int 1, .int (-8))], .plain, rfl⟩, ⟨.frozen, rfl⟩, 2, by decide,
    .map .plain (fun e he => ?_) fun e he => ?_⟩
  · rw [List.mem_singleton.1 he]
    exact .int (by decide)
  · rw [List.mem_singleton.1 he]
    refine .list fun x hx => ?_
    rw [List.mem_singleton.1 hx]
    exact .bytes _

theorem tidy_unsigned : unsigned.unprotectedHeader.Tidy := by
  refine .map .frozen ?_ (fun e he => ?_) fun e he => ?_
  · exact List.pairwise_singleton _ _
  · rw [List.mem_singleton.1 he]
    exact .int 4
  · rw [List.mem_singleton.1 he]
    refine .list fun x hx => ?_
    rw [List.mem_singleton.1 hx]
    exact .leaf (by decide) (by decide) (by decide)

theorem length_encode_unsigned {b : Bytes} (h : unsigned.encode = .ok b) : b.length = 13 := by
  have hlength : unsigned.encode.toOption.map List.length = some 13 := by decide +kernel
  rw [h] at hlength
  exact Option.some_inj.1 hlength

/-- The message comes back from its encoding; and the bytes, written anew, stand for themselves. -/
theorem round_trip_openEnded :
    (∃ b m, unsigned.encode = .ok b ∧ decode (.bytes b) = .ok m ∧
      m.toValue.same unsigned.toValue = true) ∧
    ∃ m b, decode (.bytes openEnded) = .ok m ∧ m.encode = .ok b ∧ b ≠ openEnded ∧
      Certificate.Interchangeable (.bytes openEnded) (.bytes b) := by
  obtain ⟨hforms, haccepted⟩ := round_trip
  refine ⟨?_, ?_⟩
  · have hcount : ∀ b, unsigned.encode = .ok b → (b.length : Int) ≤ Value.greatestCount := by
      intro b hb
      rw [length_encode_unsigned hb]
      decide
    obtain ⟨⟨b, hb⟩, -, hread⟩ := hforms unsigned _ _ _ _ portable_unsigned tidy_unsigned hcount
    obtain ⟨m, hm, -, hsame, -⟩ := hread (.bytes b) (.encoded hb rfl)
    exact ⟨b, m, hb, hm, hsame⟩
  · have hm : decode (.bytes openEnded) = .ok ⟨.bytes [0xa1, 0x01, 0x27],
        .map .plain [(.int 4, .list [.bytes [7]])], .bytes [], .bytes []⟩ := rfl
    obtain ⟨depth, hdepth, hplain⟩ := portable_unsigned.plain
    -- the sort of a byte string or a map makes no difference to the encoding
    obtain ⟨b, hb, hread⟩ := haccepted (.bytes openEnded) openEnded _ depth rfl hm hplain
      (.inl hdepth) fun b (hb : unsigned.encode = .ok b) => by
        rw [length_encode_unsigned hb]
        decide
    obtain ⟨-, -, -, hsame⟩ := hread (.bytes b) rfl
    have hlength : b.length = 13 := length_encode_unsigned hb
    refine ⟨_, b, hm, hb, ?_, hsame⟩
    rintro rfl
    cases hlength

end SignedMessage

end DeviceTrust
