import DeviceTrust.Proofs.Cbor.Framing
import DeviceTrust.Proofs.Cose.RoundTrip
import DeviceTrust.Proofs.Cose.Verification

/-!
# The covered bytes determine the message

What a signature covers is three strings, one encoded after the other. Every encoding begins with its
own length, so the three can be told apart again (`SignedMessage.sigStructure_inj`): no byte can move
from one to the next without changing what is covered. A signature that is valid for two messages
under one key is thus one that the primitive of the key takes for two different texts
(`SignedMessage.accepts_both_of_verify`).

The only condition is that the head of a string holds its length, as it does for every string that
there is memory for.
-/

set_option autoImplicit false

namespace DeviceTrust

/-! ## Encodings of strings -/

namespace Cbor

/-- A string of any length is determined by its encoding, if nothing follows: its head can be cut
off, even where it does not hold the length. -/
theorem encodeBytes_injective : Function.Injective encodeBytes := by
  intro b b' h
  obtain ⟨first, tail, n, hhead, -, hreads⟩ := head_cut (by decide : 2 < 8) b.length
  obtain ⟨first', tail', n', hhead', -, hreads'⟩ := head_cut (by decide : 2 < 8) b'.length
  rw [encodeBytes, encodeBytes, hhead, hhead', List.cons_append, List.cons_append] at h
  obtain ⟨rfl, htail⟩ := List.cons.inj h
  exact (hreads.append_inj hreads' htail).2

end Cbor

/-! ## Covered bytes -/

namespace SignedMessage

variable {header external payload header' external' payload' : Bytes}

/-- **The covered bytes hold the three strings apart.** -/
theorem sigStructure_inj (hheader : header.length < 2 ^ 64) (hexternal : external.length < 2 ^ 64)
    (hheader' : header'.length < 2 ^ 64) (hexternal' : external'.length < 2 ^ 64) :
    sigStructure header external payload = sigStructure header' external' payload' ↔
      header = header' ∧ external = external' ∧ payload = payload' := by
  constructor
  · intro h
    have hall := (List.cons.inj h).2
    simp only [List.append_assoc] at hall
    -- the text at the front is the same in both, and the strings are taken off one by one
    have hstrings := List.append_cancel_left hall
    obtain ⟨rfl, hlater⟩ := Cbor.encodeBytes_append_inj hheader hheader' hstrings
    obtain ⟨rfl, hlast⟩ := Cbor.encodeBytes_append_inj hexternal hexternal' hlater
    exact ⟨rfl, rfl, Cbor.encodeBytes_injective hlast⟩
  · rintro ⟨rfl, rfl, rfl⟩
    rfl

/-- A message of byte strings, of either sort, is signed by the bytes that they make. -/
theorem HasParts.toBeSigned_eq_ok {m : SignedMessage} {signature : Bytes} {x : Value}
    (h : m.HasParts header payload signature) (hx : x.byteString? = some external) :
    m.toBeSigned x = .ok (sigStructure header external payload) := by
  rw [← signedBytes_bytes]
  simp only [toBeSigned, signedBytes, signedValue, Cbor.encode?, Cbor.encodeItems?,
    Cbor.encode?_of_byteString? h.protectedHeader, Cbor.encode?_of_byteString? h.payload,
    Cbor.encode?_of_byteString? hx, List.length_cons, List.length_nil]

end SignedMessage

/-! ## Valid signatures -/

theorem Suite.reads_unique {s s' : Suite} {k : CoseKey} {pub pub' : PublicKey} (h : s.Reads k pub)
    (h' : s'.Reads k pub') : pub = pub' := by
  cases h with
  | @eddsa _ raw h =>
      cases h' with
      | @eddsa _ raw' h' =>
          have hbytes : raw.bytes = raw'.bytes := Option.some_inj.1 (h.xBytes.symm.trans h'.xBytes)
          obtain ⟨_, _⟩ := raw
          obtain ⟨_, _⟩ := raw'
          cases hbytes
          rfl
      | es256 h' => cases h.keyType.symm.trans h'.keyType
  | es256 h =>
      cases h' with
      | eddsa h' => cases h.keyType.symm.trans h'.keyType
      | es256 h' =>
          obtain ⟨b, hb, rfl⟩ := h.xBytes
          obtain ⟨c, hc, rfl⟩ := h.yBytes
          obtain ⟨b', hb', rfl⟩ := h'.xBytes
          obtain ⟨c', hc', rfl⟩ := h'.yBytes
          cases hb.symm.trans hb'
          cases hc.symm.trans hc'
          rfl

theorem Suite.verify_of_byteString? {signature : Value} {b : Bytes}
    (h : signature.byteString? = some b) (s : Suite) (data key : Value) :
    s.verify data signature key = s.verify data (.bytes b) key := by
  cases signature with
  | bytes _ | buffer _ =>
      cases h
      rfl
  | _ => cases h

namespace SignedMessage

variable {m m' : SignedMessage} {header payload signature header' payload' : Bytes} {k : CoseKey}

/-- **A message that verifies is accepted by the primitive of the key**, on any platform. -/
theorem accepts_of_verify (hm : m.HasParts header payload signature) (hk : k.Normal)
    {p : Platform} {pr : Provider} (h : (pr.verify p m k.toValue).result = .ok true) :
    ∃ s : Suite, ∃ pub, s.Reads k pub ∧
      pub.accepts (sigStructure header [] payload) signature = true := by
  rw [Provider.result_verify] at h
  obtain ⟨a, -, h⟩ := bind_eq_ok.1 h
  obtain ⟨s, -, h⟩ := bind_eq_ok.1 h
  obtain ⟨pub, hpub, h⟩ := bind_eq_ok.1 h
  obtain ⟨data, hdata, h⟩ := bind_eq_ok.1 h
  cases hdata.symm.trans (hm.toBeSigned_eq_ok rfl)
  have hreads := (Suite.publicKeyOf_eq_ok_iff_withDefault.1 hpub).2.2
  rw [Suite.verify_of_byteString? hm.signature, Suite.verify_of_reads hreads] at h
  exact ⟨s, pub, (Suite.reads_withDefaultAlgorithm hk).1 hreads, Except.ok.inj h⟩

/-- **One signature under two messages**: if both verify under one key, the primitive of the key
accepts the signature for the bytes that either of them covers. -/
theorem accepts_both_of_verify (hm : m.HasParts header payload signature)
    (hm' : m'.HasParts header' payload' signature) (hk : k.Normal) {p p' : Platform}
    {pr pr' : Provider} (h : (pr.verify p m k.toValue).result = .ok true)
    (h' : (pr'.verify p' m' k.toValue).result = .ok true) :
    ∃ s : Suite, ∃ pub, s.Reads k pub ∧
      pub.accepts (sigStructure header [] payload) signature = true ∧
      pub.accepts (sigStructure header' [] payload') signature = true := by
  obtain ⟨s, pub, hreads, haccepts⟩ := accepts_of_verify hm hk h
  obtain ⟨s', pub', hreads', haccepts'⟩ := accepts_of_verify hm' hk h'
  cases Suite.reads_unique hreads hreads'
  exact ⟨s, pub, hreads, haccepts, haccepts'⟩

/-- **The signed bytes determine the message.** Take strings whose lengths fit in a head, as they do
for every string in memory (`Value.lt_of_le_greatestCount`). They can be signed, and the covered bytes
are the same only if the header, the external data and the payload are each the same. So two messages
with the same covered bytes have the same header and the same payload, and were covered with the same
external data. If two messages verify with one key and one signature, the primitive of the key accepts
the signature for the covered bytes of both, and these are different unless the two have the same
header and the same payload. -/
theorem covered_determines_parts {header external payload header' external' payload' : Bytes}
    (hheader : header.length < 2 ^ 64) (hexternal : external.length < 2 ^ 64)
    (hheader' : header'.length < 2 ^ 64) (hexternal' : external'.length < 2 ^ 64) :
    (∃ b, signedBytes (.bytes header) (.bytes payload) (.bytes external) = .ok b) ∧
    (signedBytes (.bytes header) (.bytes payload) (.bytes external)
        = signedBytes (.bytes header') (.bytes payload') (.bytes external') ↔
      header = header' ∧ external = external' ∧ payload = payload') ∧
    (∀ (m m' : SignedMessage) (signature signature' : Bytes) (x x' : Value),
      m.HasParts header payload signature → m'.HasParts header' payload' signature' →
      x.byteString? = some external → x'.byteString? = some external' →
      m.toBeSigned x = m'.toBeSigned x' →
        header = header' ∧ external = external' ∧ payload = payload') ∧
    ∀ (m m' : SignedMessage) (signature : Bytes) (es : Entries) (p p' : Platform)
      (pr pr' : Provider), m.HasParts header payload signature →
      m'.HasParts header' payload' signature →
      (pr.verify p m (CoseKey.new es).toValue).result = .ok true →
      (pr'.verify p' m' (CoseKey.new es).toValue).result = .ok true →
        ∃ (s : Suite) (pub : PublicKey) (data data' : Bytes), s.Reads (CoseKey.new es) pub ∧
          m.toBeSigned = .ok data ∧ pub.accepts data signature = true ∧
          m'.toBeSigned = .ok data' ∧ pub.accepts data' signature = true ∧
          (data = data' ↔ header = header' ∧ payload = payload') := by
  refine ⟨⟨_, signedBytes_bytes header external payload⟩, ?_, ?_, ?_⟩
  · rw [signedBytes_bytes, signedBytes_bytes, Except.ok.injEq]
    exact sigStructure_inj hheader hexternal hheader' hexternal'
  · intro m m' signature signature' x x' hm hm' hx hx' h
    rw [hm.toBeSigned_eq_ok hx, hm'.toBeSigned_eq_ok hx'] at h
    exact (sigStructure_inj hheader hexternal hheader' hexternal').1 (Except.ok.inj h)
  · intro m m' signature es p p' pr pr' hm hm' h h'
    obtain ⟨s, pub, hreads, haccepts, haccepts'⟩ :=
      accepts_both_of_verify hm hm' (CoseKey.normal_new es) h h'
    refine ⟨s, pub, _, _, hreads, hm.toBeSigned_eq_ok rfl, haccepts, hm'.toBeSigned_eq_ok rfl,
      haccepts', ?_⟩
    -- verification covers no external data
    rw [sigStructure_inj hheader (by decide) hheader' (by decide)]
    exact and_congr_right fun _ => and_iff_right rfl

/-- A byte that moves from the header to the external data, or on to the payload, changes what is
covered. -/
theorem covered_determines_parts_shifted :
    signedBytes (.bytes [0xa0]) (.bytes []) (.bytes [])
        ≠ signedBytes (.bytes []) (.bytes []) (.bytes [0xa0]) ∧
      signedBytes (.bytes []) (.bytes []) (.bytes [0xa0])
        ≠ signedBytes (.bytes []) (.bytes [0xa0]) (.bytes []) := by
  refine ⟨fun h => ?_, fun h => ?_⟩
  · obtain ⟨hheader, -⟩ := (covered_determines_parts (by decide) (by decide) (by decide)
      (by decide)).2.1.1 h
    cases hheader
  · obtain ⟨-, hexternal, -⟩ := (covered_determines_parts (by decide) (by decide) (by decide)
      (by decide)).2.1.1 h
    cases hexternal

end SignedMessage

end DeviceTrust
