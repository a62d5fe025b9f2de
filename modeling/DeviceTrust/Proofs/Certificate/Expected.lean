import DeviceTrust.Proofs.Certificate.Pinning
import DeviceTrust.Proofs.Certificate.Targets

/-!
# How a comparison with an expected key ends

Once a signature is valid, an expected key of any sort leads to one of five ends (`PinnedEnd`): the
certificate certifies no key, the expected key cannot be converted, it is a byte string that cannot be
read, it is a key on the larger curve, or there are two keys to compare. Two keys are compared by their
parameter `x` alone (`Comparison`).

All errors among these are the library's own, but for one: the fault for the larger curve is a wrong
value and not a wrong type, and of the faults of the conversion only those of a wrong type become an
error of input that cannot be read (`verify_expected_ends`).
-/

set_option autoImplicit false

namespace DeviceTrust

namespace Certificate

variable {p : Platform} {pr : Provider} {verifying candidate expected : Value} {m : SignedMessage}
  {certified k : CoseKey} {f : Fault}

/-! ## Two keys -/

/-- **How the comparison of a certified key with an expected one ends**: without a byte string `x` in
the one or the other the type is reported, first for the certified key; two byte strings that differ are
reported with both values; and if they are the same, the verdict is yes. -/
inductive Comparison (certified k : CoseKey) : Except Error Bool → Prop
  | certifiedType {e : Error} (hx : (certified.get .x).byteString? = none)
      (hreport : e.report? = some ⟨"certified key x field does not have expected type",
        .typeMismatch, some "x", .kind .byteString, .kind (certified.get .x).kindOf⟩) :
      Comparison certified k (.error e)
  | expectedType {e : Error} {x : Bytes} (hx : (certified.get .x).byteString? = some x)
      (hx' : (k.get .x).byteString? = none)
      (hreport : e.report? = some ⟨"expected key x field does not have expected type",
        .typeMismatch, some "x", .kind .byteString, .kind (k.get .x).kindOf⟩) :
      Comparison certified k (.error e)
  | differ {e : Error} {x x' : Bytes} (hx : (certified.get .x).byteString? = some x)
      (hx' : (k.get .x).byteString? = some x') (hne : x ≠ x')
      (hreport : e.report? = some ⟨"Key in certificate does not match the expected key",
        .verificationFailure, some "x", k.get .x, certified.get .x⟩) :
      Comparison certified k (.error e)
  | same (h : certified.SamePinned k) : Comparison certified k (.ok true)

theorem requirePinned_of_byteString?_eq_none {side : PinnedSide} {key : CoseKey}
    (h : (key.get .x).byteString? = none) :
    requirePinned side key = .error (.pinnedType side (key.get .x).kindOf) := by
  refine if_neg fun hkind => ?_
  obtain ⟨x, hx⟩ := Value.kindOf_eq_byteString_iff.1 hkind
  cases h.symm.trans hx

/-- **Two keys are compared** once both are read. -/
theorem comparison_of_keys (hc : certifiedKey m = .ok certified)
    (hk : expectedKey p expected = .ok k) :
    Comparison certified k ((checkExpected p m expected).result >>= fun _ => .ok true) := by
  unfold checkExpected
  simp only [Traced.result_bind, Traced.result_lift, hc, hk]
  show Comparison certified k
    ((requirePinned .certified certified >>= fun _ => requirePinned .expected k >>= _) >>= _)
  -- the three checks in order: the first one that fails gives the error
  cases hx : (certified.get .x).byteString? with
  | none =>
      rw [requirePinned_of_byteString?_eq_none hx]
      exact .certifiedType hx rfl
  | some x =>
      rw [requirePinned_eq_ok_iff.2 ⟨x, hx⟩]
      cases hx' : (k.get .x).byteString? with
      | none =>
          rw [requirePinned_of_byteString?_eq_none hx']
          exact .expectedType hx hx' rfl
      | some x' =>
          rw [requirePinned_eq_ok_iff.2 ⟨x', hx'⟩]
          show Comparison certified k
            ((if !(certified.get .x).same (k.get .x) then _ else _ : Traced Unit).result >>= _)
          have hequal := Value.same_iff_of_byteString? hx hx'
          cases hsame : (certified.get .x).same (k.get .x) with
          | true => exact .same ⟨x, hx, hequal.1 hsame ▸ hx'⟩
          | false => exact .differ hx hx' (fun h => by cases hsame.symm.trans (hequal.2 h)) rfl

/-! ## One key expected -/

/-- **A value that is no key** is reported as an expected key that cannot be converted, unless it is a
key on the larger curve, whose fault is no wrong type and is passed on as it is. -/
theorem expectedKey_of_formFault (hb : expected.byteString? = none) (hf : expected.FormFault f) :
    expectedKey p expected
      = .error (if f.faultClass = .type then .unusableExpectedKey f else .fault f) := by
  unfold expectedKey
  simp only [hb, Option.isSome_none, Bool.false_eq_true, if_false, pure_bind,
    CoseKey.ofValue_of_formFault hf]
  rfl

/-- **How the comparison with an expected key ends**, after a valid signature: not at all if nothing is
certified or the expected key is none, and else as the comparison of the two keys. -/
inductive PinnedEnd (p : Platform) (m : SignedMessage) (expected : Value) : Except Error Bool → Prop
  | uncertified {e : Error} (hm : ¬ ∃ certified, HoldsKey m.payload certified)
      (hreason : IsDeserialization e) : PinnedEnd p m expected (.error e)
  | otherCurve {certified : CoseKey} (hm : HoldsKey m.payload certified) {x y : Nat}
      (hkey : expected = .publicKey (.p384 x y)) :
      PinnedEnd p m expected (.error (.fault (.otherCurve p384.name)))
  | inconvertible {e : Error} {certified : CoseKey} (hm : HoldsKey m.payload certified)
      (hkey : ∀ key, expected ≠ .publicKey key) (hmap : expected.entries? = none)
      (hbytes : expected.byteString? = none)
      (hreport : e.report?
        = some (.bare "Expected key cannot be converted to a COSE key" .deserialization)) :
      PinnedEnd p m expected (.error e)
  | undecodable {e : Error} {certified : CoseKey} (hm : HoldsKey m.payload certified) {b : Bytes}
      (hbytes : expected.byteString? = some b) (hnone : ¬ ∃ k, HoldsKey expected k)
      (hreason : IsDeserialization e) : PinnedEnd p m expected (.error e)
  | compared {certified k : CoseKey} (hm : HoldsKey m.payload certified) (hk : Expects p expected k)
      {outcome : Except Error Bool} (h : Comparison certified k outcome) :
      PinnedEnd p m expected outcome

/-- If something is certified, an expected key that cannot be read ends the comparison. -/
theorem checkExpected_of_expectedKey_eq_error {e : Error} (hc : certifiedKey m = .ok certified)
    (he : expectedKey p expected = .error e) :
    (checkExpected p m expected).result = .error e := by
  unfold checkExpected
  rw [Traced.result_bind, Traced.result_lift, hc]
  show (liftM (expectedKey p expected) >>= _ : Traced Unit).result = _
  rw [Traced.result_bind, Traced.result_lift, he]
  rfl

/-- **Every comparison ends in one of these ways.** -/
theorem pinnedEnd_checkExpected (hp : p.missing = []) (m : SignedMessage) (expected : Value) :
    PinnedEnd p m expected ((checkExpected p m expected).result >>= fun _ => .ok true) := by
  by_cases hm : ∃ certified, HoldsKey m.payload certified
  · obtain ⟨certified, hm⟩ := hm
    have hc : certifiedKey m = .ok certified := CoseKey.decode_eq_ok_iff.2 hm
    cases he : expectedKey p expected with
    | ok k => exact .compared hm (expectedKey_eq_ok_iff.1 he) (comparison_of_keys hc he)
    | error e =>
        rw [checkExpected_of_expectedKey_eq_error hc he]
        -- byte strings are read, values of every other sort are converted
        cases hb : expected.byteString? with
        | some b =>
            rw [expectedKey_of_byteString? hb] at he
            rcases (CoseKey.decode_failsOnly expected).ok_or_error with ⟨k, hk⟩ | ⟨e', he', hreason⟩
            · rw [hk] at he
              cases he
            · rw [he'] at he
              cases he
              refine .undecodable hm hb ?_ hreason
              rintro ⟨k, hk⟩
              cases he'.symm.trans (CoseKey.decode_eq_ok_iff.2 hk)
        | none =>
            rcases Value.publicForm_or_formFault expected with ⟨k, hk⟩ | ⟨f, hf⟩
            · have hread := (expectedKey_of_byteString?_eq_none hb).2
                (CoseKey.ofValue_of_publicForm hp hk)
              cases he.symm.trans hread
            · cases he.symm.trans (expectedKey_of_formFault hb hf)
              cases hf with
              | otherCurve x y => exact .otherCurve hm rfl
              | notPublicKey hkey hmap => exact .inconvertible hm hkey hmap hb rfl
  · obtain ⟨e, he, hreason⟩ :
        ∃ e, (checkExpected p m expected).result = .error e ∧ IsDeserialization e :=
      checkExpected_of_not_holdsKey hm
    rw [he]
    exact .uncertified hm hreason

theorem Comparison.ok_or_isReported {outcome : Except Error Bool}
    (h : Comparison certified k outcome) :
    outcome = .ok true ∨ ∃ e, outcome = .error e ∧ IsReported e := by
  cases h with
  | certifiedType _ hreport | expectedType _ _ hreport | differ _ _ _ hreport =>
      exact .inr ⟨_, rfl, Option.isSome_of_eq_some hreport⟩
  | same _ => exact .inl rfl

/-- **One of these ends is no error of the library**: that of a key on the larger curve, where a key is
certified. -/
theorem PinnedEnd.ok_or_isReported_iff {outcome : Except Error Bool}
    (h : PinnedEnd p m expected outcome) :
    (outcome = .ok true ∨ ∃ e, outcome = .error e ∧ IsReported e) ↔
      ¬ ((∃ certified, HoldsKey m.payload certified) ∧
        ∃ x y, expected = .publicKey (.p384 x y)) := by
  cases h with
  | uncertified hm hreason =>
      exact iff_of_true (.inr ⟨_, rfl, Error.isReported_of_reason? hreason⟩) fun h => hm h.1
  | otherCurve hm hkey =>
      refine iff_of_false ?_ fun h => h ⟨⟨_, hm⟩, _, _, hkey⟩
      rintro (h | ⟨_, h, hreported⟩)
      · cases h
      · cases h
        cases hreported
  | inconvertible _ hkey _ _ hreport =>
      exact iff_of_true (.inr ⟨_, rfl, Option.isSome_of_eq_some hreport⟩)
        fun ⟨_, x, y, h⟩ => hkey _ h
  | undecodable _ hbytes _ hreason =>
      refine iff_of_true (.inr ⟨_, rfl, Error.isReported_of_reason? hreason⟩) ?_
      rintro ⟨-, x, y, rfl⟩
      cases hbytes
  | compared _ hk hkeys =>
      refine iff_of_true hkeys.ok_or_isReported ?_
      -- a key on the larger curve stands for no structured key
      rintro ⟨-, x, y, rfl⟩
      cases hk with
      | publicKey h => cases h
      | structured h =>
          cases h with
          | encoded hb _ => cases hb

/-! ## Verification -/

/-- After a valid signature the comparison decides the outcome. -/
theorem result_verify_expected (hvalid : (verify p pr verifying candidate).result = .ok true)
    (hm : HoldsMessage candidate m) (he : expected ≠ .null) :
    (verify p pr verifying candidate expected).result
      = (checkExpected p m expected).result >>= fun _ => .ok true := by
  obtain ⟨m', root, key, hm', hroot, hkey, hsigned⟩ := verify_eq_true_iff.1 hvalid
  obtain rfl := SignedMessage.holdsMessage_unique hm hm'
  rw [verify_of_holdsMessage hm hroot (CoseKey.decode_eq_ok_iff.2 hkey),
    result_afterReading_of_ne_null hsigned he]

/-- **How verification with an expected key ends.** If a certificate verifies without an expected key,
then with one, of whatever sort, the outcome is that of the comparison; and it is a verdict or an error
of the library unless the certificate certifies a key and the expected one is a public key on the larger
curve. -/
theorem verify_expected_ends (p : Platform) (hp : p.missing = []) (pr : Provider)
    {verifying candidate : Value} (hvalid : (verify p pr verifying candidate).result = .ok true)
    {m : SignedMessage} (hm : HoldsMessage candidate m) {expected : Value} (he : expected ≠ .null) :
    let outcome := (verify p pr verifying candidate expected).result
    PinnedEnd p m expected outcome ∧
      ((outcome = .ok true ∨ ∃ e, outcome = .error e ∧ IsReported e) ↔
        ¬ ((∃ certified, HoldsKey m.payload certified) ∧
          ∃ x y, expected = .publicKey (.p384 x y))) := by
  intro outcome
  have hend : PinnedEnd p m expected outcome := by
    show PinnedEnd p m expected (verify p pr verifying candidate expected).result
    rw [result_verify_expected hvalid hm he]
    exact pinnedEnd_checkExpected hp m expected
  exact ⟨hend, hend.ok_or_isReported_iff⟩

/-- A key certifies itself: the certificate of its public key verifies against itself. -/
theorem verify_self_signed :
    let issuer : RawKey := ⟨Bytes.zeros 32, rfl⟩
    ∃ root es, (signPublicKey {} .standard (.privateKey (.ed25519 issuer) 0)
        (.publicKey (.ed25519 issuer.ed25519Public))).result = .ok root ∧
      HoldsKey root.payload ⟨es⟩ ∧
      (verify {} .standard root.toValue root.toValue).result = .ok true := by
  intro issuer
  have hsk : Suite.SignsWith .eddsa (.ed25519 issuer) := .eddsa issuer
  have hs : Suite.eddsa ∈ Provider.standard.suites := by decide
  obtain ⟨es, hes⟩ := exists_parameters? hsk rfl
  obtain ⟨payload, hpayload⟩ := (PublicKey.portable_of_parameters? hes 0).1.exists_encode
  have hcontent : content {} (.publicKey (.ed25519 issuer.ed25519Public)) = .ok payload :=
    content_eq_ok (CoseKey.ofPublicKey_of_parameters? rfl hes) hpayload
  have hlaw : (PublicKey.ed25519 issuer.ed25519Public).accepts
      (SignedMessage.sigStructure Suite.eddsa.header [] payload)
      ((PrivateKey.ed25519 issuer).signature 1
        (SignedMessage.sigStructure Suite.eddsa.header [] payload)) = true := by
    have hany : ((content {} (.publicKey (.ed25519 issuer.ed25519Public))).toOption.any fun b =>
        (PublicKey.ed25519 issuer.ed25519Public).accepts
          (SignedMessage.sigStructure Suite.eddsa.header [] b)
          ((PrivateKey.ed25519 issuer).signature 1
            (SignedMessage.sigStructure Suite.eddsa.header [] b))) = true := by
      set_option maxRecDepth 100000 in
      decide +kernel
    rwa [hcontent, Except.toOption, Option.any_some] at hany
  obtain ⟨root, fs, hroot, hkey, -, hverify⟩ :=
    exists_verify_issue (p := {}) rfl hs hsk 0 rfl trivial hlaw
  -- the certificate is the message that is verified
  cases hroot.symm.trans (signPublicKey_eq hs hsk 0 hcontent)
  exact ⟨_, fs, hroot, hkey, hverify⟩

/-- With a text as the expected key the comparison ends in the error of one that cannot be converted. -/
theorem verify_expected_ends_text :
    ∃ root : SignedMessage, (verify {} .standard root.toValue root.toValue).result = .ok true ∧
      ∃ e, (verify {} .standard root.toValue root.toValue (.text "key")).result = .error e ∧
        e.report? = some (.bare "Expected key cannot be converted to a COSE key" .deserialization) := by
  obtain ⟨root, es, -, hkey, hverify⟩ := verify_self_signed
  have hnull : Value.text "key" ≠ .null := by
    intro h
    cases h
  refine ⟨root, hverify, ?_⟩
  obtain ⟨hend, -⟩ := verify_expected_ends {} rfl .standard hverify (.message root) hnull
  generalize (verify {} .standard root.toValue root.toValue (.text "key")).result = outcome at hend
  cases hend with
  | inconvertible _ _ _ _ hreport => exact ⟨_, rfl, hreport⟩
  | uncertified hnone _ => exact absurd ⟨_, hkey⟩ hnone
  | otherCurve _ h => cases h
  | undecodable _ hbytes _ _ => cases hbytes
  | compared _ hk _ =>
      cases hk with
      | structured h => cases h with
        | encoded hbytes _ => cases hbytes

/-- **A public key on the larger curve as the expected key ends in an error that is none of the
library's own.** -/
theorem verify_expected_larger_curve :
    ∃ (root : SignedMessage) (certified : CoseKey),
      (verify {} .standard root.toValue root.toValue).result = .ok true ∧
      HoldsKey root.payload certified ∧
      ∃ e, (verify {} .standard root.toValue root.toValue
          (.publicKey (.p384 p384.baseX p384.baseY))).result = .error e ∧
        e.isReported = false := by
  obtain ⟨root, es, -, hkey, hverify⟩ := verify_self_signed
  have hnull : Value.publicKey (.p384 p384.baseX p384.baseY) ≠ .null := by
    intro h
    cases h
  refine ⟨root, ⟨es⟩, hverify, hkey, .fault (.otherCurve p384.name), ?_, rfl⟩
  rw [result_verify_expected hverify (.message root) hnull,
    checkExpected_of_expectedKey_eq_error (CoseKey.decode_eq_ok_iff.2 hkey) rfl]
  rfl

end Certificate

end DeviceTrust
