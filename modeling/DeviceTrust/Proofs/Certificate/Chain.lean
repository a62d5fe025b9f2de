import DeviceTrust.Certificate.Chain
import DeviceTrust.Proofs.Cose.Verification

/-!
# Boot certificate chains fail closed

Whatever is handed in as a chain, its validation ends in an answer or in a verification failure
(`validate_failsOnly`). An answer is only given after both entries of a chain of two were read, and
it is the answer of the verification of the second under the first (`validate_eq_ok_iff`).
-/

set_option autoImplicit false

namespace DeviceTrust

namespace Chain

variable {p : Platform} {pr : Provider} {chain root device : Value}

/-- **What counts as a chain**: an array of entries, or the encoding of one. -/
inductive HoldsEntries : Value → List Value → Prop
  | array {v : Value} {items : List Value} (hv : v.items? = some items) : HoldsEntries v items
  | encoded {v w : Value} {b : Bytes} {items : List Value} (hv : v.byteString? = some b)
      (hb : Cbor.decode? b = some w) (hw : w.items? = some items) : HoldsEntries v items

/-- No entry of the chain is a signed message put together by hand. -/
def Vetted (chain : Value) : Prop := ∀ items, chain.items? = some items → ∀ x ∈ items, x.Vetted

theorem vetted_of_holdsEntries (h : Vetted chain) {items : List Value}
    (hi : HoldsEntries chain items) : ∀ x ∈ items, x.Vetted := by
  cases hi with
  | array hv => exact h items hv
  | encoded _ hb hw =>
      intro x hx
      exact ((Cbor.onWire_decode? hb).of_items? hw x hx).vetted

/-! ## Reading a chain -/

theorem entries_eq_ok_iff {items : List Value} :
    entries chain = .ok items ↔ HoldsEntries chain items := by
  constructor
  · intro h
    obtain ⟨w, hw, h⟩ := bind_eq_ok.1 h
    split at h
    · rename_i hi
      cases h
      rcases (WireItem.chain.read_eq_ok_iff).1 hw with ⟨-, rfl⟩ | ⟨b, hb, hd⟩
      · exact .array hi
      · exact .encoded hb hd hi
    · cases h
  · intro h
    cases h with
    | array hv =>
        have hread := WireItem.chain.read_of_byteString?_eq_none (Value.byteString?_of_items? hv)
        refine bind_eq_ok.2 ⟨chain, hread, ?_⟩
        rw [hv]
        rfl
    | encoded hv hb hw =>
        refine bind_eq_ok.2 ⟨_, (WireItem.chain.read_eq_ok_iff).2 (.inr ⟨_, hv, hb⟩), ?_⟩
        rw [hw]
        rfl

/-! ## Writing a chain -/

theorem encode_list_eq_ok_iff {items : List Value} {b : Bytes} :
    encode (.list items) = .ok b ↔ Cbor.encode? (.list items) = some b := by
  constructor
  · intro h
    obtain ⟨_, hitems, h⟩ := bind_eq_ok.1 h
    cases hitems
    split at h
    · rename_i hsome
      cases h
      exact hsome
    · cases h
  · intro h
    refine bind_eq_ok.2 ⟨items, rfl, ?_⟩
    rw [h]

/-! ## Checking the link -/

theorem linkHolds_eq_ok_iff {b : Bool} :
    (linkHolds p pr root device).result = .ok b ↔
      ∃ k m, HoldsKey root k ∧ HoldsMessage device m ∧
        (pr.verify p m k.toValue).result = .ok b := by
  unfold linkHolds
  simp only [Traced.result_bind, Traced.result_lift, bind_eq_ok, CoseKey.decode_eq_ok_iff,
    SignedMessage.decode_eq_ok_iff]
  constructor
  · rintro ⟨k, hk, m, hm, h⟩
    exact ⟨k, m, hk, hm, h⟩
  · rintro ⟨k, m, hk, hm, h⟩
    exact ⟨k, hk, m, hm, h⟩

theorem linkHolds_failsOnly (p : Platform) (pr : Provider) (root : Value) (h : device.Vetted) :
    FailsOnly IsReported (linkHolds p pr root device).result := by
  unfold linkHolds
  simp only [Traced.result_bind, Traced.result_lift]
  have hreported : ∀ e, IsDeserialization e → IsReported e := fun _ => Error.isReported_of_reason?
  refine ((CoseKey.decode_failsOnly root).mono hreported).bind fun k _ => ?_
  refine ((SignedMessage.decode_failsOnly device).mono hreported).bind fun m hm => ?_
  have hmessage := SignedMessage.decode_eq_ok_iff.1 hm
  exact Provider.verify_failsOnly_of_wellFormed p pr
    (SignedMessage.wellFormed_of_holdsMessage h hmessage) k

/-! ## Validation -/

theorem validate_eq_ok_iff {b : Bool} :
    (validate p pr chain).result = .ok b ↔
      ∃ root device, HoldsEntries chain [root, device] ∧
        (linkHolds p pr root device).result = .ok b := by
  unfold validate
  simp only [Traced.result_bind, Traced.result_lift, bind_eq_ok, mapError_eq_ok,
    entries_eq_ok_iff]
  constructor
  · rintro ⟨items, hi, h⟩
    split at h
    · rename_i root device
      simp only [Traced.result_bind, Traced.result_mapError] at h
      obtain ⟨valid, hvalid, h⟩ := bind_eq_ok.1 h
      have hvalid := mapError_eq_ok.1 hvalid
      cases valid <;> cases h <;> exact ⟨root, device, hi, hvalid⟩
    · cases h
  · rintro ⟨root, device, hi, h⟩
    refine ⟨[root, device], hi, ?_⟩
    simp only [Traced.result_bind, Traced.result_mapError, h]
    cases b <;> rfl

/-- **A chain without an answer is a verification failure.** -/
theorem validate_failsOnly (p : Platform) (pr : Provider) (h : Vetted chain) :
    FailsOnly IsVerificationFailure (validate p pr chain).result := by
  unfold validate
  simp only [Traced.result_bind, Traced.result_lift]
  refine FailsOnly.bind ?_ fun items hi => ?_
  · intro e he
    obtain ⟨_, -, rfl⟩ := mapError_eq_error.1 he
    rfl
  · -- no entry was put together by hand, whether the chain came as bytes or not
    have hvetted := vetted_of_holdsEntries h (entries_eq_ok_iff.1 (mapError_eq_ok.1 hi))
    clear hi
    split
    · rename_i root device
      have hdevice : device.Vetted := hvetted device (by simp)
      simp only [Traced.result_bind, Traced.result_mapError]
      refine FailsOnly.bind ?_ fun valid _ => ?_
      · intro e he
        obtain ⟨e', he', rfl⟩ := mapError_eq_error.1 he
        have hreported := linkHolds_failsOnly p pr root hdevice e' he'
        rw [reworded, if_pos hreported]
        rfl
      · cases valid <;> exact .ok _
    · exact .error rfl

/-- **Validation fails closed.** A chain gives an answer or a verification failure, and nothing
else. The answer is given exactly for an array of two entries, or the encoding of one, of which the
first holds a key and the second a message, and it is that of the verification of the message under
the key. -/
theorem validate_fails_closed (p : Platform) (pr : Provider) (chain : Value) (h : Vetted chain) :
    ((∃ b, (validate p pr chain).result = .ok b) ∨
      ∃ e, (validate p pr chain).result = .error e ∧ IsVerificationFailure e) ∧
    ∀ b, (validate p pr chain).result = .ok b ↔
      ∃ root device k m, HoldsEntries chain [root, device] ∧ HoldsKey root k ∧
        HoldsMessage device m ∧ (pr.verify p m k.toValue).result = .ok b := by
  refine ⟨(validate_failsOnly p pr h).ok_or_error, fun b => ?_⟩
  rw [validate_eq_ok_iff]
  constructor
  · rintro ⟨root, device, hi, hlink⟩
    obtain ⟨k, m, hk, hm, hverify⟩ := linkHolds_eq_ok_iff.1 hlink
    exact ⟨root, device, k, m, hi, hk, hm, hverify⟩
  · rintro ⟨root, device, k, m, hi, hk, hm, hverify⟩
    exact ⟨root, device, hi, linkHolds_eq_ok_iff.2 ⟨k, m, hk, hm, hverify⟩⟩

/-- A chain of a root key and a message that was read before, with no bytes as its signature: the
answer is no. -/
theorem validate_fails_closed_unsigned :
    let es : Entries := [(.int 1, .int 1), (.int (-1), .int 6), (.int (-2), .bytes (Bytes.zeros 32))]
    let m : SignedMessage := ⟨.bytes [0xa1, 0x01, 0x27], .map .plain [], .bytes [], .bytes []⟩
    Vetted (.list [.map .plain es, m.toValue]) ∧
      (validate {} .standard (.list [.map .plain es, m.toValue])).result = .ok false := by
  intro es m
  have hheader : Cbor.EncodesMap [0xa1, 0x01, 0x27] [(.int 1, .int (-8))] := ⟨.plain, rfl⟩
  have hvetted : Vetted (.list [.map .plain es, m.toValue]) := by
    rintro items ⟨⟩ x hx
    rcases List.mem_cons.1 hx with rfl | hx
    · rintro _ ⟨⟩
    · rw [List.mem_singleton.1 hx]
      rintro _ ⟨⟩
      exact .intro (.inr ⟨_, hheader⟩)
  refine ⟨hvetted, ((validate_fails_closed {} .standard _ hvetted).2 false).2 ?_⟩
  refine ⟨.map .plain es, m.toValue, .new es, m, .array rfl, .map .plain es, .message m, ?_⟩
  have hlabels : es.labels = [1, -1, -2].map Value.int := rfl
  have hes : CoseKey.new es = ⟨es⟩ :=
    CoseKey.new_eq_of_normal (CoseKey.normal_of_integers hlabels (by decide)
      (by simp [es, Value.plainNumber]))
  have hraw : (CoseKey.new es).HoldsRaw .ed25519 ⟨Bytes.zeros 32, rfl⟩ := by
    rw [hes]
    constructor <;> simp [es, KeyLabel.number] <;> rfl
  have hallows : (CoseKey.new es).Allows (-8) := .inl (by simp [hes, es, KeyLabel.number])
  refine (Provider.verify_eq_ok_iff rfl (CoseKey.normal_new es)).2 ⟨.eddsa, by decide, ?_, hallows,
    _, .eddsa hraw, by decide⟩
  exact ⟨_, .int (-8), hheader, if_pos (Value.int_agrees_int.2 rfl), rfl⟩

end Chain

end DeviceTrust
