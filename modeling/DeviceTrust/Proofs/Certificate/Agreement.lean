import DeviceTrust.Proofs.Certificate.Chain
import DeviceTrust.Proofs.Certificate.Verification
import DeviceTrust.Proofs.Cose.ReadBack

/-!
# Two ways to the same verdict

A link of a chain is checked in more than one way. The chain can be validated as it is or encoded,
so that what is checked was read back before (`Chain.validate_encoded`). And the key of the root can
be the first entry of a chain or the payload of a certificate (`Certificate.verify_agrees`): one way
takes the key from a map, the other decodes it from bytes, and each puts its errors in its own words.
Both ways lead to the verification of the same signed parts under keys that are alike, so they give
the same answer or fail both.
-/

set_option autoImplicit false

namespace DeviceTrust

/-- A plain value was not put together by hand. -/
theorem Cbor.Plain.vetted {depth : Nat} {v : Value} (h : Plain depth v) : v.Vetted := by
  intro m hm
  rw [SignedMessage.ofValue?_eq_some_iff.1 hm] at h
  cases h

theorem Cbor.Plain.of_mem {depth : Nat} {items : List Value} (h : Plain depth (.list items))
    {x : Value} (hx : x ∈ items) : ∃ inner, Plain inner x := by
  cases h with
  | noItems => cases hx
  | list h => exact ⟨_, h x hx⟩

namespace Chain

variable {p : Platform} {pr : Provider} {chain root device : Value} {items : List Value}

/-! ## Validation of what was read -/

/-- The validation of a chain of two is the check of its link, with an error of it in other
words. -/
theorem result_validate_of_two (h : HoldsEntries chain [root, device]) :
    (validate p pr chain).result = (linkHolds p pr root device).result.mapError reworded := by
  unfold validate
  rw [Traced.result_bind, Traced.result_lift, entries_eq_ok_iff.2 h]
  show ((linkHolds p pr root device).mapError reworded >>= _).result = _
  rw [Traced.result_bind, Traced.result_mapError]
  cases (linkHolds p pr root device).result with
  | error e => rfl
  | ok valid => cases valid <;> rfl

theorem result_validate_of_length_ne (h : HoldsEntries chain items) (hlength : items.length ≠ 2) :
    (validate p pr chain).result = .error (.chainLength items.length) := by
  unfold validate
  rw [Traced.result_bind, Traced.result_lift, entries_eq_ok_iff.2 h]
  rcases items with _ | ⟨x, _ | ⟨y, _ | ⟨z, rest⟩⟩⟩
  · rfl
  · rfl
  · exact absurd rfl hlength
  · rfl

/-! ## Encoded chains -/

/-- **A link of plain values holds exactly if it holds for what is read back of them.** -/
theorem linkHolds_asRead {depth depth' : Nat} (hroot : Cbor.Plain depth root)
    (hl : ∀ flavour es, root = .map flavour es → Entries.Labelled es)
    (hdevice : Cbor.Plain depth' device) (p : Platform) (pr : Provider) :
    Agree Eq (linkHolds p pr root device).result
      (linkHolds p pr (Cbor.asRead root false) (Cbor.asRead device false)).result := by
  unfold linkHolds
  simp only [Traced.result_bind, Traced.result_lift]
  refine (CoseKey.decode_asRead hroot hl).bind fun k k' hk => ?_
  refine (SignedMessage.decode_asRead hdevice false).bind fun m m' hm => ?_
  rw [Provider.verify_congr hm hk]
  exact .refl Eq.refl _

/-- Every error of the check of a link is put in the same words. -/
theorem exists_brokenLink (hdevice : device.Vetted) {e : Error}
    (h : (linkHolds p pr root device).result.mapError reworded = .error e) :
    ∃ cause, e = .brokenLink cause := by
  obtain ⟨cause, hcause, rfl⟩ := mapError_eq_error.1 h
  exact ⟨cause, if_pos (linkHolds_failsOnly p pr root hdevice cause hcause)⟩

/-- The entries of the encoding of a plain chain are its entries as they are read back. -/
theorem holdsEntries_encoded (h : Cbor.Plain Cbor.depthLimit (.list items)) {b : Bytes}
    (hb : Cbor.encode? (.list items) = some b) (hlength : (b.length : Int) ≤ Value.greatestCount)
    {v : Value} (hv : v.byteString? = some b) :
    HoldsEntries v (items.map fun x => Cbor.asRead x false) := by
  refine .encoded hv (Cbor.decode?_encode h hb (Value.lt_of_le_greatestCount hlength)) ?_
  rw [Cbor.items?_asRead, ← Cbor.itemsAsRead_eq_map]
  rfl

/-- **The encoded and the decoded chain get the same verdict.** A chain of plain values, of whatever
length and with whatever entries, has an encoding; and validation gives the same answer for both, or
fails for both with a verification failure that tells a caller the same: message, reason, field, and
what was expected and found. Only labels of a map among the entries have to be integers, texts or
byte strings, and the encoding has to have a length that can be counted. -/
theorem validate_encoded (p : Platform) (pr : Provider) {items : List Value}
    (hplain : Cbor.Plain Cbor.depthLimit (.list items))
    (hlabels : ∀ x ∈ items, ∀ flavour es, x = .map flavour es → Entries.Labelled es) :
    ∃ b, encode (.list items) = .ok b ∧
      ((b.length : Int) ≤ Value.greatestCount → ∀ v, v.byteString? = some b →
        (∃ verdict, (validate p pr v).result = .ok verdict ∧
          (validate p pr (.list items)).result = .ok verdict) ∨
        ∃ e e', (validate p pr v).result = .error e ∧
          (validate p pr (.list items)).result = .error e' ∧
          IsVerificationFailure e ∧ IsVerificationFailure e' ∧ e.report? = e'.report?) := by
  obtain ⟨b, hb⟩ := Cbor.exists_encode? hplain
  refine ⟨b, encode_list_eq_ok_iff.2 hb, fun hlength v hv => ?_⟩
  have hdecoded : HoldsEntries (.list items) items := .array rfl
  have hencoded := holdsEntries_encoded hplain hb hlength hv
  by_cases htwo : items.length = 2
  · obtain ⟨root, device, rfl⟩ := List.length_eq_two.1 htwo
    obtain ⟨_, hroot⟩ := hplain.of_mem (x := root) (by simp)
    obtain ⟨_, hdevice⟩ := hplain.of_mem (x := device) (by simp)
    have hback : (Cbor.asRead device false).Vetted := by
      cases hencoded with
      | array hi => rw [Value.byteString?_of_items? hi] at hv; cases hv
      | encoded _ hd hi => exact ((Cbor.onWire_decode? hd).of_items? hi _ (by simp)).vetted
    have hlink := linkHolds_asRead hroot (hlabels root (by simp)) hdevice p pr
    have hverdict := (hlink.mapError_left reworded).mapError_right reworded
    rw [result_validate_of_two hdecoded, result_validate_of_two hencoded]
    generalize hx : (linkHolds p pr root device).result.mapError reworded = x at hverdict
    generalize hy : (linkHolds p pr _ (Cbor.asRead device false)).result.mapError reworded = y
      at hverdict
    cases hverdict with
    | ok h => exact .inl ⟨_, congrArg Except.ok h.symm, rfl⟩
    | error e e' =>
        -- the causes may differ in how they name a type, but a caller is not told of them
        obtain ⟨cause, rfl⟩ := exists_brokenLink hdevice.vetted hx
        obtain ⟨cause', rfl⟩ := exists_brokenLink hback hy
        exact .inr ⟨.brokenLink cause', .brokenLink cause, rfl, rfl, rfl, rfl, rfl⟩
  · -- both are refused for the same length
    have hlength' : (items.map fun x => Cbor.asRead x false).length ≠ 2 := by
      rwa [List.length_map]
    rw [result_validate_of_length_ne hdecoded htwo, result_validate_of_length_ne hencoded hlength',
      List.length_map]
    exact .inr ⟨_, _, rfl, rfl, rfl, rfl, rfl⟩

/-! ### A link without a signature -/

/-- The parameters of an Ed25519 key that leaves its algorithm out. -/
def unsignedRoot : Entries :=
  [(.int 1, .int 1), (.int (-1), .int 6), (.int (-2), .bytes (Bytes.zeros 32))]

/-- A certificate as it is read back, but with a header that can be overwritten, and without a
signature. -/
def unsignedDevice : Value :=
  .tag Parameters.messageTag
    (.tuple [.buffer [0xa1, 0x01, 0x27], .map .frozen [], .bytes [], .bytes []])

theorem linkHolds_unsigned :
    (linkHolds {} .standard (.map .plain unsignedRoot) unsignedDevice).result = .ok false := by
  have hanswer : (linkHolds {} .standard (.map .plain unsignedRoot) unsignedDevice).result.toOption
      = some false := by decide +kernel
  cases h : (linkHolds {} .standard (.map .plain unsignedRoot) unsignedDevice).result with
  | error e => rw [h] at hanswer; cases hanswer
  | ok valid => rw [h] at hanswer; cases hanswer; rfl

theorem plain_unsignedRoot : Cbor.Plain 1 (.map .plain unsignedRoot) := by
  refine .map .plain (fun e he => ?_) fun e he => ?_
  · simp only [unsignedRoot, List.mem_cons, List.not_mem_nil, or_false] at he
    rcases he with rfl | rfl | rfl <;> exact .int (by decide)
  · simp only [unsignedRoot, List.mem_cons, List.not_mem_nil, or_false] at he
    rcases he with rfl | rfl | rfl
    · exact .int (by decide)
    · exact .int (by decide)
    · exact .bytes _

theorem labelled_unsignedRoot : Entries.Labelled unsignedRoot := by
  intro e he
  simp only [unsignedRoot, List.mem_cons, List.not_mem_nil, or_false] at he
  rcases he with rfl | rfl | rfl <;> exact .int _

theorem plain_unsignedDevice : Cbor.Plain 2 unsignedDevice := by
  refine .tag (by decide) (by decide) (.tuple fun x hx => ?_)
  simp only [List.mem_cons, List.not_mem_nil, or_false] at hx
  rcases hx with rfl | rfl | rfl | rfl
  · exact .buffer _
  · exact .noEntries .frozen
  · exact .bytes _
  · exact .bytes _

/-- The chain of the two is validated as it is and encoded, with the answer no. -/
theorem validate_encoded_unsigned :
    ∃ b, encode (.list [.map .plain unsignedRoot, unsignedDevice]) = .ok b ∧
      (validate {} .standard (.bytes b)).result = .ok false ∧
      (validate {} .standard (.list [.map .plain unsignedRoot, unsignedDevice])).result
        = .ok false := by
  have hplain : Cbor.Plain 3 (.list [.map .plain unsignedRoot, unsignedDevice]) := by
    refine .list fun x hx => ?_
    rcases List.mem_cons.1 hx with rfl | hx
    · exact plain_unsignedRoot.mono (by decide)
    · rw [List.mem_singleton.1 hx]
      exact plain_unsignedDevice
  have hlabels : ∀ x ∈ [.map .plain unsignedRoot, unsignedDevice], ∀ flavour es,
      x = .map flavour es → Entries.Labelled es := by
    rintro x hx flavour es rfl
    rcases List.mem_cons.1 hx with hx | hx
    · cases hx
      exact labelled_unsignedRoot
    · cases List.mem_singleton.1 hx
  have hdecoded : (validate {} .standard (.list [.map .plain unsignedRoot, unsignedDevice])).result
      = .ok false := by
    rw [result_validate_of_two (.array rfl), linkHolds_unsigned]
    rfl
  obtain ⟨b, hb, hverdict⟩ := validate_encoded {} .standard (hplain.mono (by decide)) hlabels
  have hsize : (Cbor.encode? (.list [.map .plain unsignedRoot, unsignedDevice])).map List.length
      = some 50 := by decide +kernel
  rw [encode_list_eq_ok_iff.1 hb, Option.map_some, Option.some_inj] at hsize
  refine ⟨b, hb, ?_, hdecoded⟩
  rcases hverdict (by rw [hsize]; decide) (.bytes b) rfl with ⟨verdict, h, h'⟩ | ⟨_, _, _, h', _⟩
  · cases hdecoded.symm.trans h'
    exact h
  · cases hdecoded.symm.trans h'

end Chain

namespace Certificate

variable {p : Platform} {pr : Provider} {verifying candidate : Value} {root : SignedMessage}
  {k : CoseKey} {flavour : MapFlavour} {es : Entries} {b : Bytes}

/-! ## Chains and certificates -/

/-- Once the key of the verifying certificate is read, the outcome is that of the verification of the
candidate under it. -/
theorem result_verify_of_certifiedKey (hroot : HoldsMessage verifying root)
    (hk : certifiedKey root = .ok k) :
    (verify p pr verifying candidate).result = (do
      let m ← SignedMessage.decode candidate
      (pr.verify p m k.toValue).result.mapError reworded) := by
  unfold verify
  rw [Traced.result_bind, Traced.result_lift]
  refine bind_congr fun m => ?_
  rw [SignedMessage.decode_eq_ok_iff.2 hroot, Traced.liftM_ok_bind, hk, Traced.liftM_ok_bind]
  exact result_afterReading_null p pr m k

/-- **The key that the encoding of a plain map certifies** is the key of the map as it is read
back. -/
theorem certifiedKey_of_encode? (hplain : Cbor.Plain Cbor.depthLimit (.map flavour es))
    (hlabels : es.Labelled) (hb : Cbor.encode? (.map flavour es) = some b)
    (hlength : (b.length : Int) ≤ Value.greatestCount) (hroot : root.payload.byteString? = some b) :
    certifiedKey root = .ok (CoseKey.new es).asRead := by
  have hmap : Cbor.EncodesMap b (Entries.ofList (Cbor.entriesAsRead es false)) :=
    ⟨.plain, Cbor.decode?_encode hplain hb (Value.lt_of_le_greatestCount hlength)⟩
  rw [certifiedKey, ← CoseKey.new_entriesAsRead hlabels]
  exact CoseKey.decode_eq_ok_iff.2 (.encoded hroot hmap)

/-- **The two ways give the same answer, or none**: a chain of a plain map and a candidate, and the
certificate of the encoded map with the candidate. -/
theorem validate_agree_verify (hplain : Cbor.Plain Cbor.depthLimit (.map flavour es))
    (hlabels : es.Labelled) (hb : Cbor.encode? (.map flavour es) = some b)
    (hlength : (b.length : Int) ≤ Value.greatestCount) (hroot : HoldsMessage verifying root)
    (hpayload : root.payload.byteString? = some b) (p : Platform) (pr : Provider)
    (candidate : Value) :
    Agree Eq (Chain.validate p pr (.list [.map flavour es, candidate])).result
      (verify p pr verifying candidate).result := by
  rw [Chain.result_validate_of_two (.array rfl), result_verify_of_certifiedKey hroot
    (certifiedKey_of_encode? hplain hlabels hb hlength hpayload)]
  refine Agree.mapError_left ?_ _
  unfold Chain.linkHolds
  simp only [Traced.result_bind, Traced.result_lift]
  show Agree Eq (SignedMessage.decode candidate >>= _) _
  refine (Agree.refl Eq.refl (SignedMessage.decode candidate)).bind fun m m' hm => ?_
  have halike := CoseKey.alike_asRead (CoseKey.normal_new es)
  rw [← hm, Provider.verify_congr (.refl m) halike]
  exact (Agree.refl Eq.refl _).mapError_right _

/-- A candidate that holds no message cannot be read; any other fails as something that cannot be
trusted. -/
theorem verify_failsOnly_of_certifiedKey (p : Platform) (pr : Provider)
    (hroot : HoldsMessage verifying root) (hk : certifiedKey root = .ok k) (hc : candidate.Vetted) :
    ((¬ ∃ m, HoldsMessage candidate m) →
      ∃ e, (verify p pr verifying candidate).result = .error e ∧ IsDeserialization e) ∧
    ((∃ m, HoldsMessage candidate m) →
      FailsOnly IsVerificationFailure (verify p pr verifying candidate).result) := by
  rw [result_verify_of_certifiedKey hroot hk]
  constructor
  · intro hnone
    rcases (SignedMessage.decode_failsOnly candidate).ok_or_error with ⟨m, hm⟩ | ⟨e, he, hreason⟩
    · exact absurd ⟨m, SignedMessage.decode_eq_ok_iff.1 hm⟩ hnone
    · rw [he]
      exact ⟨e, rfl, hreason⟩
  · rintro ⟨m, hm⟩ e he
    rw [SignedMessage.decode_eq_ok_iff.2 hm] at he
    obtain ⟨cause, hcause, rfl⟩ := mapError_eq_error.1 he
    have hwell := SignedMessage.wellFormed_of_holdsMessage hc hm
    rw [reworded_of_isReported (Provider.verify_failsOnly_of_wellFormed p pr hwell k cause hcause)]
    rfl

/-- **Chain validation and certificate verification agree.** Take a plain map and any certificate
whose payload is its encoding, in any form. A candidate under the map in a chain gets an answer
exactly if it gets this answer under the certificate, and one of the two fails exactly if the other
does. Validation fails with a verification failure only; verification fails with the error of input
that cannot be read exactly if the candidate holds no message, and with a verification failure
otherwise. Labels of the map have to be integers, texts or byte strings, its encoding has to have a
length that can be counted, and the candidate is no message that was put together by hand. -/
theorem verify_agrees (p : Platform) (pr : Provider) {flavour : MapFlavour} {es : Entries}
    {b : Bytes} (hplain : Cbor.Plain Cbor.depthLimit (.map flavour es)) (hlabels : es.Labelled)
    (hb : Cbor.encode? (.map flavour es) = some b)
    (hlength : (b.length : Int) ≤ Value.greatestCount) {verifying candidate : Value}
    {root : SignedMessage} (hroot : HoldsMessage verifying root)
    (hpayload : root.payload.byteString? = some b) (hc : candidate.Vetted) :
    let chain : Value := .list [.map flavour es, candidate]
    (∀ verdict, (Chain.validate p pr chain).result = .ok verdict ↔
      (verify p pr verifying candidate).result = .ok verdict) ∧
    ((∃ e, (Chain.validate p pr chain).result = .error e) ↔
      ∃ e, (verify p pr verifying candidate).result = .error e) ∧
    (∀ e, (Chain.validate p pr chain).result = .error e → IsVerificationFailure e) ∧
    ((∃ e, (verify p pr verifying candidate).result = .error e ∧ IsDeserialization e) ↔
      ¬ ∃ m, HoldsMessage candidate m) ∧
    ∀ e, (verify p pr verifying candidate).result = .error e →
      (∃ m, HoldsMessage candidate m) → IsVerificationFailure e := by
  intro chain
  have hagree := validate_agree_verify hplain hlabels hb hlength hroot hpayload p pr candidate
  have hk := certifiedKey_of_encode? hplain hlabels hb hlength hpayload
  obtain ⟨hunread, hread⟩ := verify_failsOnly_of_certifiedKey p pr hroot hk hc
  have hvetted : Chain.Vetted chain := by
    rintro items ⟨⟩ x hx
    rcases List.mem_cons.1 hx with rfl | hx
    · exact hplain.vetted
    · rw [List.mem_singleton.1 hx]
      exact hc
  refine ⟨hagree.ok_iff, hagree.error_iff, Chain.validate_failsOnly p pr hvetted, ⟨?_, hunread⟩,
    fun e he hm => hread hm e he⟩
  rintro ⟨e, he, hreason⟩ hm
  cases hreason.symm.trans (hread hm e he)

/-- A certificate of the same key, put together by hand, gives the same answer as the chain; and a
candidate without any bytes, which holds no message, is refused by both, each in its own way. -/
theorem verify_agrees_unsigned :
    ∃ b, Cbor.encode? (.map .plain Chain.unsignedRoot) = some b ∧
      let root : SignedMessage := ⟨.null, .null, .buffer b, .null⟩
      (verify {} .standard root.toValue Chain.unsignedDevice).result = .ok false ∧
      (∃ e, (verify {} .standard root.toValue (.bytes [])).result = .error e ∧
        IsDeserialization e) ∧
      ∃ e, (Chain.validate {} .standard (.list [.map .plain Chain.unsignedRoot, .bytes []])).result
        = .error e ∧ IsVerificationFailure e := by
  have hplain := Chain.plain_unsignedRoot.mono (by decide : 1 ≤ Cbor.depthLimit)
  obtain ⟨b, hb⟩ := Cbor.exists_encode? hplain
  have hsize : (Cbor.encode? (.map .plain Chain.unsignedRoot)).map List.length = some 40 := by
    decide +kernel
  rw [hb, Option.map_some, Option.some_inj] at hsize
  have hlength : (b.length : Int) ≤ Value.greatestCount := by
    rw [hsize]
    decide
  refine ⟨b, hb, ?_⟩
  intro root
  have hagrees := fun {candidate : Value} (hc : candidate.Vetted) => verify_agrees {} .standard
    hplain Chain.labelled_unsignedRoot hb hlength (.message root) rfl hc
  have hnone : ¬ ∃ m, HoldsMessage (.bytes []) m := by
    rintro ⟨m, hm⟩
    cases SignedMessage.decode_eq_ok_iff.2 hm
  have hbytes : (Value.bytes []).Vetted := by
    rintro m ⟨⟩
  obtain ⟨-, herror, hvalidate, hread, -⟩ := hagrees hbytes
  obtain ⟨e, he, hreason⟩ := hread.2 hnone
  obtain ⟨e', he'⟩ := herror.2 ⟨e, he⟩
  refine ⟨((hagrees Chain.plain_unsignedDevice.vetted).1 false).1 ?_, ⟨e, he, hreason⟩, e', he',
    hvalidate e' he'⟩
  rw [Chain.result_validate_of_two (.array rfl), Chain.linkHolds_unsigned]
  rfl

end Certificate

end DeviceTrust
