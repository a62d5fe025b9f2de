import DeviceTrust.Proofs.Cbor.Written
import DeviceTrust.Proofs.Cose.Verification
import DeviceTrust.Proofs.Key.Checks

/-!
# The labels that are read

The readers of public keys ask for their fields by number, and so does the provider for the algorithm
in a protected header. A map answers with what stands under a label that is the number, whatever the
spelling: an integer, but also a boolean, a floating-point number, a simple value or an object. So a
field that is read from bytes was written under a label that is its number (`Cbor.ReadUnder`), and it
was written under the integer if no label there is the number in another spelling
(`Cbor.SpelledOut`).
-/

set_option autoImplicit false

namespace DeviceTrust

/-- **A number is spelled out**: the labels that are this number are the integer. -/
def Cbor.SpelledOut (ws : Entries) (n : Int) : Prop :=
  ∀ e ∈ ws, e.1.sameAsInt n = true → ∃ m, e.1 = .int m

/-- **What is read under a number is written under this number**, and under the integer if the number
is spelled out. -/
def Cbor.ReadUnder (ws : Entries) (n : Int) (v : Value) : Prop :=
  ∃ e ∈ ws, e.2 = v ∧ e.1.sameAsInt n = true ∧ (SpelledOut ws n → e.1 = .int n)

theorem Cbor.readUnder_of_find? {ws : Entries} {n : Int} {v : Value}
    (h : (Entries.ofList ws).find? (.int n) = some v) : ReadUnder ws n v := by
  obtain ⟨e, he, hcontent, hlabel⟩ := Entries.exists_of_find?_ofList h
  refine ⟨e, he, hcontent, hlabel, fun hspelled => ?_⟩
  obtain ⟨m, hm⟩ := hspelled e he hlabel
  rw [hm, ← Value.int_agrees, Value.int_agrees_int] at hlabel
  rw [hm, hlabel]

theorem Value.eq_some_getD_null {found : Option Value} (h : found.getD .null ≠ .null) :
    found = some (found.getD .null) := by
  cases found with
  | some v => rfl
  | none => exact absurd rfl h

/-! ## Keys -/

theorem Cbor.OnWire.plainNumber_eq {v : Value} (h : Cbor.OnWire v) : v.plainNumber = v := by
  cases h <;> rfl

namespace CoseKey

/-- **A key that is read from bytes has the entries that are written there as its parameters.** -/
theorem exists_written_of_decode {v : Value} {b : Bytes} {k : CoseKey}
    (hv : v.byteString? = some b) (h : decode v = .ok k) :
    ∃ ws, Cbor.Written b ws ∧ k.parameters = Entries.ofList ws := by
  cases decode_eq_ok_iff.1 h with
  | key _ | map _ _ => cases hv
  | @encoded _ b' es hv' hb =>
      cases hv.symm.trans hv'
      obtain ⟨flavour, hb⟩ := hb
      obtain ⟨ws, hws, rfl⟩ := Cbor.exists_written hb
      have hnormal : Normal ⟨Entries.ofList ws⟩ := by
        refine ⟨Entries.distinct_ofList ws, ?_⟩
        cases Cbor.onWire_decode? hb with
        | map _ hk hc => exact fun e he => ⟨(hk e he).plainNumber_eq, (hc e he).plainNumber_eq⟩
      rw [new_eq_of_normal hnormal]
      exact ⟨ws, hws, rfl⟩

variable {k : CoseKey} {label : KeyLabel}

theorem find?_of_int? {n : Int} (h : (k.get label).int? = some n) :
    k.find? (.int label.number) = some (k.get label) :=
  Value.eq_some_getD_null fun hnull => by
    rw [get, hnull] at h
    cases h

theorem find?_of_byteString? {b : Bytes} (h : (k.get label).byteString? = some b) :
    k.find? (.int label.number) = some (k.get label) :=
  Value.eq_some_getD_null fun hnull => by
    rw [get, hnull] at h
    cases h

end CoseKey

namespace PublicKey

variable {p : Platform} {v : Value} {pub : PublicKey}

theorem find?_of_toRawKey {k : CoseKey} {c : RawCurve} (h : k.toRawKey p c = .ok pub) :
    ∀ label ∈ [KeyLabel.kty, .alg, .crv, .x],
      k.find? (.int label.number) = some (k.get label) := by
  obtain ⟨-, halg, raw, ⟨hkty, hcrv, hx⟩, -⟩ := CoseKey.toRawKey_eq_ok_iff.1 h
  simp only [List.forall_mem_cons, List.not_mem_nil, false_implies, implies_true, and_true]
  exact ⟨CoseKey.find?_of_int? hkty, CoseKey.find?_of_int? halg, CoseKey.find?_of_int? hcrv,
    CoseKey.find?_of_byteString? hx⟩

theorem find?_of_toPoint {k : CoseKey} (h : k.toPoint p = .ok pub) :
    ∀ label ∈ [KeyLabel.kty, .alg, .crv, .x, .y],
      k.find? (.int label.number) = some (k.get label) := by
  obtain ⟨-, halg, _, _, ⟨hkty, hcrv, ⟨_, hx, -⟩, ⟨_, hy, -⟩, -⟩, -⟩ := CoseKey.toPoint_eq_ok_iff.1 h
  simp only [List.forall_mem_cons, List.not_mem_nil, false_implies, implies_true, and_true]
  exact ⟨CoseKey.find?_of_int? hkty, CoseKey.find?_of_int? halg, CoseKey.find?_of_int? hcrv,
    CoseKey.find?_of_byteString? hx, CoseKey.find?_of_byteString? hy⟩

/-- **A key that is read has all fields of its curve.** -/
theorem find?_of_decodeOn {c : Curve} (h : decodeOn p v c = .ok pub) :
    ∃ k, CoseKey.decode v = .ok k ∧
      ∀ label ∈ c.fields, k.find? (.int label.number) = some (k.get label) := by
  cases c with
  | x25519 | ed25519 =>
      obtain ⟨k, hk, h⟩ := bind_eq_ok.1 h
      exact ⟨k, hk, find?_of_toRawKey h⟩
  | p256 =>
      obtain ⟨k, hk, h⟩ := bind_eq_ok.1 h
      exact ⟨k, hk, find?_of_toPoint h⟩

/-- The fields of a key that is read from bytes were written there under their numbers. -/
theorem readUnder_of_decodeOn {c : Curve} {b : Bytes} (hv : v.byteString? = some b)
    (h : decodeOn p v c = .ok pub) :
    ∃ k ws, CoseKey.decode v = .ok k ∧ Cbor.Written b ws ∧
      ∀ label ∈ c.fields, Cbor.ReadUnder ws label.number (k.get label) := by
  obtain ⟨k, hk, hfields⟩ := find?_of_decodeOn h
  obtain ⟨ws, hws, hparameters⟩ := CoseKey.exists_written_of_decode hv hk
  refine ⟨k, ws, hk, hws, fun label hlabel => Cbor.readUnder_of_find? ?_⟩
  rw [← hparameters]
  exact hfields label hlabel

end PublicKey

/-! ## Protected headers -/

namespace SignedMessage

variable {m : SignedMessage} {pr : Provider} {s : Suite}

theorem header_of_byteString? {b : Bytes} (hb : m.protectedHeader.byteString? = some b) :
    m.header = Header.decode (.bytes b) :=
  Header.decode_of_byteString? hb

/-- The algorithm that a header names was written there under the number of its label. -/
theorem readUnder_of_algorithm {b : Bytes} (hb : m.protectedHeader.byteString? = some b)
    (h : m.algorithm >>= pr.get = .ok s) :
    ∃ ws v, Cbor.Written b ws ∧ m.algorithm = .ok v ∧ v.int? = some s.number ∧
      Cbor.ReadUnder ws Parameters.algorithmLabel v := by
  obtain ⟨v, hv, hs⟩ := bind_eq_ok.1 h
  have hnumber := (Provider.get_eq_ok_iff.1 hs).2
  obtain ⟨es, hes, halgorithm⟩ := bind_eq_ok.1 hv
  obtain rfl : Header.algorithm es = v := Except.ok.inj halgorithm
  have hfind : es.find? (.int Parameters.algorithmLabel) = some (Header.algorithm es) :=
    Value.eq_some_getD_null fun hnull => by
      rw [Header.algorithm, hnull] at hnumber
      cases hnumber
  -- a header without bytes has no entries
  rcases Header.encodesMap_of_decode ((header_of_byteString? hb).symm.trans hes) with
    ⟨-, rfl⟩ | ⟨flavour, hmap⟩
  · cases hfind
  · obtain ⟨ws, hws, rfl⟩ := Cbor.exists_written hmap
    exact ⟨ws, _, hws, hv, hnumber, Cbor.readUnder_of_find? hfind⟩

end SignedMessage

/-- A verification that gives an answer took its algorithm from the protected header. -/
theorem Provider.exists_suite_of_verify {p : Platform} {pr : Provider} {m : SignedMessage}
    {key : Value} {valid : Bool} (h : (pr.verify p m key).result = .ok valid) :
    ∃ s, m.algorithm >>= pr.get = .ok s := by
  unfold verify at h
  simp only [Traced.result_bind, Traced.result_lift] at h
  obtain ⟨v, hv, h⟩ := bind_eq_ok.1 h
  obtain ⟨s, hs, -⟩ := bind_eq_ok.1 h
  exact ⟨s, bind_eq_ok.2 ⟨v, hv, hs⟩⟩

/-- **Where numbers are read from.** If the reader of a curve takes a key from bytes, each field of the
key was written there under a label that is the number of the field; and if a provider takes the
algorithm of a message from the bytes of its protected header, as every verification with an answer
does, it was written there under a label that is the number of algorithms. Where the number is spelled
out, this label is the integer. -/
theorem fields_read_by_number (p : Platform) :
    (∀ (c : Curve) (v : Value) (b : Bytes) (pub : PublicKey), v.byteString? = some b →
      PublicKey.decodeOn p v c = .ok pub →
        ∃ k ws, CoseKey.decode v = .ok k ∧ Cbor.Written b ws ∧
          ∀ label ∈ c.fields, Cbor.ReadUnder ws label.number (k.get label)) ∧
    (∀ (pr : Provider) (m : SignedMessage) (b : Bytes) (s : Suite),
      m.protectedHeader.byteString? = some b → m.algorithm >>= pr.get = .ok s →
        ∃ ws v, Cbor.Written b ws ∧ m.algorithm = .ok v ∧ v.int? = some s.number ∧
          Cbor.ReadUnder ws Parameters.algorithmLabel v) ∧
    ∀ (pr : Provider) (m : SignedMessage) (key : Value) (valid : Bool),
      (pr.verify p m key).result = .ok valid → ∃ s, m.algorithm >>= pr.get = .ok s :=
  ⟨fun _ _ _ _ => PublicKey.readUnder_of_decodeOn,
    fun _ _ _ _ => SignedMessage.readUnder_of_algorithm,
    fun _ _ _ _ => Provider.exists_suite_of_verify⟩

/-- A key with the fields of X25519 and thirty-two zeros, under labels that are integers. -/
def labelledByIntegers : Bytes :=
  [0xa4, 0x01, 0x01, 0x03, 0x38, 0x18, 0x20, 0x04, 0x21, 0x58, 0x20] ++ Bytes.zeros 32

/-- The key type is labelled with a boolean here, and the curve with a floating-point number. -/
def labelledOtherwise : Bytes :=
  [0xa4, 0xf5, 0x01, 0x03, 0x38, 0x18, 0xf9, 0xbc, 0x00, 0x04, 0x21, 0x58, 0x20] ++ Bytes.zeros 32

/-- The entries of a key with these fields, under a label of the key type and one of the curve. -/
def entriesLabelled (kty crv : Value) : Entries :=
  [(kty, .int 1), (.int 3, .int (-25)), (crv, .int 4), (.int (-2), .bytes (Bytes.zeros 32))]

/-- Bytes that encode such entries under labels of one number each are read as the key. -/
theorem decodeOn_entriesLabelled {b : Bytes} (kty crv : Value)
    (hb : Cbor.decode? b = some (.map .plain (Entries.ofList (entriesLabelled kty crv))))
    (hkty : ((CoseKey.new (Entries.ofList (entriesLabelled kty crv))).get .kty).int? = some 1)
    (halg : ((CoseKey.new (Entries.ofList (entriesLabelled kty crv))).get .alg).int? = some (-25))
    (hcrv : ((CoseKey.new (Entries.ofList (entriesLabelled kty crv))).get .crv).int? = some 4)
    (hx : ((CoseKey.new (Entries.ofList (entriesLabelled kty crv))).get .x).byteString?
      = some (Bytes.zeros 32)) :
    PublicKey.decodeOn {} (.bytes b) .x25519 = .ok (.x25519 ⟨Bytes.zeros 32, rfl⟩) := by
  refine bind_eq_ok.2 ⟨_, CoseKey.decode_eq_ok_iff.2 (.encoded rfl ⟨.plain, hb⟩), ?_⟩
  exact CoseKey.toRawKey_eq_ok_iff.2 ⟨List.not_mem_nil, halg, _, ⟨hkty, hcrv, hx⟩, rfl⟩

/-- The fields of a key with integers as its labels are read under these. -/
theorem fields_read_by_number_integers : ∃ k ws,
    CoseKey.decode (.bytes labelledByIntegers) = .ok k ∧ Cbor.Written labelledByIntegers ws ∧
      ∀ label ∈ [KeyLabel.kty, .alg, .crv, .x], Cbor.ReadUnder ws label.number (k.get label) :=
  (fields_read_by_number {}).1 .x25519 (.bytes labelledByIntegers) labelledByIntegers _ rfl
    (decodeOn_entriesLabelled (.int 1) (.int (-1)) rfl (by decide +kernel)
      (by decide +kernel) (by decide +kernel) (by decide +kernel))

/-- **Fields under labels that are no integers.** A key is read whose type is labelled with a boolean
and whose curve is labelled with a floating-point number, and a header that labels the algorithm with
a boolean selects the suite. -/
theorem fields_read_under_other_labels :
    (PublicKey.decodeOn {} (.bytes labelledOtherwise) .x25519
        = .ok (.x25519 ⟨Bytes.zeros 32, rfl⟩) ∧
      Cbor.Written labelledOtherwise
        (entriesLabelled (.bool true) (.float ⟨0xbff0000000000000⟩))) ∧
    ∀ u q s, (SignedMessage.algorithm ⟨.bytes [0xa1, 0xf5, 0x27], u, q, s⟩ >>= Provider.standard.get)
        = .ok .eddsa ∧
      Cbor.Written [0xa1, 0xf5, 0x27] [(.bool true, .int (-8))] := by
  refine ⟨⟨?_, .entries rfl rfl⟩, fun u q s => ⟨?_, .entries rfl rfl⟩⟩
  · exact decodeOn_entriesLabelled (.bool true) (.float ⟨0xbff0000000000000⟩) rfl
      (by decide +kernel) (by decide +kernel) (by decide +kernel) (by decide +kernel)
  · refine bind_eq_ok.2 ⟨Header.algorithm (Entries.ofList [(.bool true, .int (-8))]), rfl, ?_⟩
    exact Provider.get_eq_ok_iff.2 ⟨by decide, by decide +kernel⟩

end DeviceTrust
