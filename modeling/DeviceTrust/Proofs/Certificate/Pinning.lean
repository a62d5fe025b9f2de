import DeviceTrust.Proofs.Certificate.Chain
import DeviceTrust.Proofs.Certificate.Issued

/-!
# What pinning pins

With an expected key, a certificate verifies exactly if it does without one and the certified key
and the expected one have the same byte string `x` (`verify_expected_iff`). Nothing else of the two
keys is compared: on a raw curve this is the whole key (`HoldsRaw.eq_of_samePinned`), of a point it
is one coordinate of two, and keys of different types can share it.

What a certificate certifies is read only to be compared. So a verdict covers a certified key when
one is expected (`verify_expected_certifies`); otherwise, and in a chain, it covers the bytes that
were signed, whatever they are.
-/

set_option autoImplicit false

namespace DeviceTrust

namespace CoseKey

/-- **Two keys that pinning takes for one**: both have a byte string `x`, and it is the same. -/
def SamePinned (k k' : CoseKey) : Prop :=
  ∃ x, (k.get .x).byteString? = some x ∧ (k'.get .x).byteString? = some x

/-- On a raw curve the pinned parameter is all there is of a key. -/
theorem HoldsRaw.eq_of_samePinned {k k' : CoseKey} {c : RawCurve} {raw raw' : RawKey}
    (h : k.HoldsRaw c raw) (h' : k'.HoldsRaw c raw') (hsame : k.SamePinned k') : raw = raw' := by
  obtain ⟨x, hx, hx'⟩ := hsame
  have hbytes : raw.bytes = x := Option.some.inj (h.xBytes.symm.trans hx)
  have hbytes' : raw'.bytes = x := Option.some.inj (h'.xBytes.symm.trans hx')
  obtain ⟨bytes, hlength⟩ := raw
  obtain ⟨bytes', hlength'⟩ := raw'
  obtain rfl : bytes = x := hbytes
  obtain rfl : bytes' = bytes := hbytes'
  rfl

end CoseKey

theorem PublicKey.coordinates_of_parameters? {x y : Nat} {es : Entries}
    (h : (PublicKey.p256 x y).parameters? = some es) :
    (CoseKey.get ⟨es⟩ .x).byteString? = some (Bytes.ofNatBE Parameters.coordinateLength x) ∧
      (CoseKey.get ⟨es⟩ .y).byteString? = some (Bytes.ofNatBE Parameters.coordinateLength y) := by
  cases h
  constructor
  · simp [keyParameters, KeyLabel.number, Value.byteString?]
  · simp [keyParameters, KeyLabel.number, Value.byteString?]

namespace Certificate

variable {p : Platform} {pr : Provider} {verifying candidate expected : Value}
  {m root : SignedMessage} {k certified : CoseKey}

/-! ## What is expected -/

/-- **The key that a caller expects**: the structured form of a public key, or of what counts as a
structured key all but its secret part. -/
inductive Expects (p : Platform) : Value → CoseKey → Prop
  | publicKey {pub : PublicKey} {k : CoseKey} (h : CoseKey.ofPublicKey p pub = .ok k) :
      Expects p (.publicKey pub) k
  | structured {v : Value} {k : CoseKey} (h : HoldsKey v k) : Expects p v k.publicKey

theorem expectedKey_of_byteString? {b : Bytes} (h : expected.byteString? = some b) :
    expectedKey p expected = CoseKey.decode expected >>= fun k => .ok k.publicKey := by
  unfold expectedKey
  rw [h]
  cases CoseKey.decode expected with
  | error e => rfl
  | ok k => rfl

/-- What is no byte string is taken as it is, and an error for it may change its words. -/
theorem expectedKey_of_byteString?_eq_none (h : expected.byteString? = none) :
    expectedKey p expected = .ok k ↔ CoseKey.ofValue p expected = .ok k := by
  unfold expectedKey
  simp only [h, Option.isSome_none, Bool.false_eq_true, if_false, pure_bind]
  split
  · rename_i f hfault
    rw [hfault]
    constructor
    · intro h
      cases h
    · intro h
      cases h
  · rfl

/-- **The reader of expected keys** takes what a caller can expect. -/
theorem expectedKey_eq_ok_iff : expectedKey p expected = .ok k ↔ Expects p expected k := by
  cases hb : expected.byteString? with
  | some b =>
      rw [expectedKey_of_byteString? hb]
      constructor
      · intro h
        obtain ⟨k', hk', ⟨⟩⟩ := bind_eq_ok.1 h
        exact .structured (CoseKey.decode_eq_ok_iff.1 hk')
      · intro h
        cases h with
        | publicKey _ => cases hb
        | structured h => exact bind_eq_ok.2 ⟨_, CoseKey.decode_eq_ok_iff.2 h, rfl⟩
  | none =>
      rw [expectedKey_of_byteString?_eq_none hb]
      constructor
      · intro h
        unfold CoseKey.ofValue at h
        split at h
        · exact .publicKey h
        · cases h
          exact .structured (.key _)
        · cases h
          exact .structured (.map _ _)
        · cases h
      · intro h
        cases h with
        | publicKey h => exact h
        | structured h =>
            cases h with
            | key _ | map _ _ => rfl
            | encoded hv _ => cases hb.symm.trans hv

/-! ## The comparison -/

/-- **When a certified key passes for an expected one.** -/
theorem checkExpected_eq_ok_iff : (checkExpected p m expected).result = .ok () ↔
    ∃ certified k, HoldsKey m.payload certified ∧ Expects p expected k ∧ certified.SamePinned k := by
  constructor
  · intro h
    unfold checkExpected at h
    simp only [Traced.result_bind, Traced.result_lift] at h
    obtain ⟨certified, hcertified, h⟩ := bind_eq_ok.1 h
    obtain ⟨k, hk, h⟩ := bind_eq_ok.1 h
    obtain ⟨_, hx, h⟩ := bind_eq_ok.1 h
    obtain ⟨_, hx', h⟩ := bind_eq_ok.1 h
    obtain ⟨x, hx⟩ := requirePinned_eq_ok_iff.1 hx
    obtain ⟨x', hx'⟩ := requirePinned_eq_ok_iff.1 hx'
    refine ⟨certified, k, CoseKey.decode_eq_ok_iff.1 hcertified, expectedKey_eq_ok_iff.1 hk, x, hx, ?_⟩
    -- a byte string that differs would have been refused
    have hsame : (certified.get .x).same (k.get .x) = true := by
      by_contra hdiffers
      rw [Bool.not_eq_true] at hdiffers
      rw [hdiffers] at h
      cases h
    rw [(Value.same_iff_of_byteString? hx hx').1 hsame]
    exact hx'
  · rintro ⟨certified, k, hcertified, hk, x, hx, hx'⟩
    exact checkExpected_of_byteString? (CoseKey.decode_eq_ok_iff.2 hcertified)
      (expectedKey_eq_ok_iff.2 hk) hx hx'

/-- If nothing is certified, the comparison fails as reading does. -/
theorem checkExpected_of_not_holdsKey (h : ¬ ∃ certified, HoldsKey m.payload certified) :
    ∃ e, (checkExpected p m expected).result = .error e ∧ IsDeserialization e := by
  rcases (certifiedKey_failsOnly m).ok_or_error with ⟨certified, hcertified⟩ | ⟨e, he, hreason⟩
  · exact absurd ⟨certified, CoseKey.decode_eq_ok_iff.1 hcertified⟩ h
  · refine ⟨e, ?_, hreason⟩
    unfold checkExpected
    rw [Traced.result_bind, Traced.result_lift, he]
    rfl

/-! ## Verdicts -/

theorem verify_eq_ok_iff {b : Bool} : (verify p pr verifying candidate expected).result = .ok b ↔
    ∃ m root k, HoldsMessage candidate m ∧ HoldsMessage verifying root ∧ HoldsKey root.payload k ∧
      (afterReading p pr m k expected).result = .ok b := by
  constructor
  · intro h
    have hread := h
    unfold verify at hread
    simp only [Traced.result_bind, Traced.result_lift] at hread
    obtain ⟨m, hm, hread⟩ := bind_eq_ok.1 hread
    obtain ⟨root, hroot, hread⟩ := bind_eq_ok.1 hread
    obtain ⟨k, hk, -⟩ := bind_eq_ok.1 hread
    have hm := SignedMessage.decode_eq_ok_iff.1 hm
    have hroot := SignedMessage.decode_eq_ok_iff.1 hroot
    rw [verify_of_holdsMessage hm hroot hk] at h
    exact ⟨m, root, k, hm, hroot, CoseKey.decode_eq_ok_iff.1 hk, h⟩
  · rintro ⟨m, root, k, hm, hroot, hk, h⟩
    rw [verify_of_holdsMessage hm hroot (CoseKey.decode_eq_ok_iff.2 hk)]
    exact h

/-- With an expected key, a valid signature leaves the outcome to the comparison. -/
theorem result_afterReading_of_ne_null (h : (pr.verify p m k.toValue).result = .ok true)
    (hexpected : expected ≠ .null) : (afterReading p pr m k expected).result
      = (checkExpected p m expected).result >>= fun _ => .ok true := by
  unfold afterReading
  rw [Traced.result_bind, Traced.result_mapError, h]
  show (if !true then (pure false : Traced Bool) else _).result = _
  rw [if_neg (by decide)]
  dsimp only
  split
  · exact absurd rfl hexpected
  · rw [Bool.not_false, if_pos rfl, Traced.result_bind]
    rfl

/-- **When the verdict is yes**: the signature is valid, and a key that is expected is compared. -/
theorem afterReading_eq_true_iff : (afterReading p pr m k expected).result = .ok true ↔
    (pr.verify p m k.toValue).result = .ok true ∧
      (expected = .null ∨ (checkExpected p m expected).result = .ok ()) := by
  constructor
  · intro h
    have hvalid : (pr.verify p m k.toValue).result = .ok true := by
      unfold afterReading at h
      rw [Traced.result_bind, Traced.result_mapError] at h
      obtain ⟨valid, hvalid, h⟩ := bind_eq_ok.1 h
      cases valid with
      | false => cases h
      | true => exact mapError_eq_ok.1 hvalid
    refine ⟨hvalid, ?_⟩
    by_cases hexpected : expected = .null
    · exact .inl hexpected
    · rw [result_afterReading_of_ne_null hvalid hexpected] at h
      obtain ⟨⟨⟩, hchecked, -⟩ := bind_eq_ok.1 h
      exact .inr hchecked
  · rintro ⟨hvalid, hexpected⟩
    exact result_afterReading_of_valid hvalid hexpected

/-- **What a verdict without an expected key rests on**: the signature, and no more. -/
theorem verify_eq_true_iff : (verify p pr verifying candidate).result = .ok true ↔
    ∃ m root k, HoldsMessage candidate m ∧ HoldsMessage verifying root ∧ HoldsKey root.payload k ∧
      (pr.verify p m k.toValue).result = .ok true := by
  simp only [verify_eq_ok_iff, afterReading_eq_true_iff, true_or, and_true]

theorem verify_expected_of_samePinned (h : (verify p pr verifying candidate).result = .ok true)
    (hm : HoldsMessage candidate m) (hcertified : HoldsKey m.payload certified)
    (hk : Expects p expected k) (hsame : certified.SamePinned k) :
    (verify p pr verifying candidate expected).result = .ok true := by
  obtain ⟨m', root, key, hm', hroot, hkey, hvalid⟩ := verify_eq_true_iff.1 h
  -- the candidate holds one message only
  obtain rfl := SignedMessage.holdsMessage_unique hm hm'
  have hchecked : (checkExpected p m expected).result = .ok () :=
    checkExpected_eq_ok_iff.2 ⟨certified, k, hcertified, hk, hsame⟩
  exact verify_eq_ok_iff.2
    ⟨m, root, key, hm, hroot, hkey, afterReading_eq_true_iff.2 ⟨hvalid, .inr hchecked⟩⟩

/-- **What pinning adds to a verdict.** With an expected key the verdict is yes exactly if it is yes
without one, what the certificate certifies is a structured key, what is expected stands for one, and
the two have the same byte string `x`. Type, curve and the other coordinate have no part in it. -/
theorem verify_expected_iff (p : Platform) (pr : Provider) (verifying candidate expected : Value) :
    (verify p pr verifying candidate expected).result = .ok true ↔
      (verify p pr verifying candidate).result = .ok true ∧
        (expected = .null ∨ ∃ m certified k, HoldsMessage candidate m ∧
          HoldsKey m.payload certified ∧ Expects p expected k ∧ certified.SamePinned k) := by
  constructor
  · intro h
    obtain ⟨m, root, key, hm, hroot, hkey, h⟩ := verify_eq_ok_iff.1 h
    obtain ⟨hvalid, hexpected⟩ := afterReading_eq_true_iff.1 h
    refine ⟨verify_eq_true_iff.2 ⟨m, root, key, hm, hroot, hkey, hvalid⟩, ?_⟩
    rcases hexpected with hnull | hchecked
    · exact .inl hnull
    · obtain ⟨certified, k, hcertified, hk, hsame⟩ := checkExpected_eq_ok_iff.1 hchecked
      exact .inr ⟨m, certified, k, hm, hcertified, hk, hsame⟩
  · rintro ⟨h, rfl | ⟨m, certified, k, hm, hcertified, hk, hsame⟩⟩
    · exact h
    · exact verify_expected_of_samePinned h hm hcertified hk hsame

/-- **What a key has signed verifies whatever it is**: a certificate of the key by itself is there to
verify it against, the signature is that of the bytes, and they are not looked into. -/
theorem exists_verify_issue (hp : p.missing = []) {s : Suite} (hs : s ∈ pr.suites) {sk : PrivateKey}
    (hsk : s.SignsWith sk) (mark : Mark) {pub : PublicKey} (hpub : sk.publicKey? = some pub)
    (hvalid : pub.IsValid) {payload : Bytes} {nonce : Nat}
    (hlaw : pub.accepts (SignedMessage.sigStructure s.header [] payload)
      (sk.signature nonce (SignedMessage.sigStructure s.header [] payload)) = true) :
    ∃ root es, (signPublicKey p pr (.privateKey sk mark) (.publicKey pub)).result = .ok root ∧
      HoldsKey root.payload ⟨es⟩ ∧ HoldsKey (.map .plain es) ⟨es⟩ ∧
      (verify p pr root.toValue (s.issue sk nonce payload).toValue).result = .ok true := by
  -- the first certificate holds the parameters of the public key
  obtain ⟨es, hes⟩ := exists_parameters? hsk hpub
  have hportable := (PublicKey.portable_of_parameters? hes 0).1
  obtain ⟨payload₀, hpayload₀⟩ := hportable.exists_encode
  have hcontent : content p (.publicKey pub) = .ok payload₀ :=
    content_eq_ok (CoseKey.ofPublicKey_of_parameters? hp hes) hpayload₀
  have hkey : ∀ v, CoseKey.Form ⟨es⟩ v → HoldsKey v ⟨es⟩ := fun v hv =>
    CoseKey.decode_eq_ok_iff.1 (PublicKey.decode_of_parameters? hes hv)
  have hroot : HoldsKey (.bytes payload₀) ⟨es⟩ := hkey _ (.encoded hpayload₀ rfl)
  -- and the suite reads the public key in them
  obtain ⟨hallows, hreads⟩ := reads_of_parameters? hsk hpub hvalid hes
  have hverify := (Provider.verify_eq_ok_iff (u := .map .plain []) hp hportable.normal).2
    ⟨s, hs, s.names_header, hallows, pub, hreads, hlaw⟩
  exact ⟨_, es, signPublicKey_eq hs hsk mark hcontent, hroot, hkey _ (.map .plain),
    verify_eq_true_iff.2 ⟨_, _, ⟨es⟩, .message _, .message _, hroot, hverify⟩⟩

/-- A certificate of a point, pinned to the other point with the same `x`, and to the key on a raw
curve that consists of the bytes of this `x`: it verifies with both, though the first differs from
the certified key in `y` and the second in its type and its curve. -/
theorem verify_expected_other_keys :
    let issuer : RawKey := ⟨Bytes.zeros 32, rfl⟩
    let point : PublicKey := .p256 p256.baseX p256.baseY
    let mirrored : PublicKey := .p256 p256.baseX (p256.prime - p256.baseY)
    let raw : PublicKey :=
      .x25519 ⟨Bytes.ofNatBE Parameters.coordinateLength p256.baseX, Bytes.length_ofNatBE _ _⟩
    ∃ root cert certified k k',
      (signPublicKey {} .standard (.privateKey (.ed25519 issuer) 0)
        (.publicKey (.ed25519 issuer.ed25519Public))).result = .ok root ∧
      (signPublicKey {} .standard (.privateKey (.ed25519 issuer) 0)
        (.publicKey point)).result = .ok cert ∧
      HoldsKey cert.payload certified ∧
      (Expects {} (.publicKey mirrored) k ∧ mirrored.IsValid ∧
        (certified.get .y).byteString? ≠ (k.get .y).byteString? ∧
        (verify {} .standard root.toValue cert.toValue (.publicKey mirrored)).result = .ok true) ∧
      Expects {} (.publicKey raw) k' ∧
        (certified.get .kty).int? ≠ (k'.get .kty).int? ∧
        (certified.get .crv).int? ≠ (k'.get .crv).int? ∧
        (verify {} .standard root.toValue cert.toValue (.publicKey raw)).result = .ok true := by
  intro issuer point mirrored raw
  have hsk : Suite.SignsWith .eddsa (.ed25519 issuer) := .eddsa issuer
  have hs : Suite.eddsa ∈ Provider.standard.suites := by decide
  -- the parameters of the three keys, and the encoding of those that are certified
  obtain ⟨es, hes⟩ : ∃ es, point.parameters? = some es := ⟨_, rfl⟩
  obtain ⟨fs, hfs⟩ : ∃ es, mirrored.parameters? = some es := ⟨_, rfl⟩
  obtain ⟨fs', hfs'⟩ : ∃ es, raw.parameters? = some es := ⟨_, rfl⟩
  obtain ⟨payload, hpayload⟩ := (PublicKey.portable_of_parameters? hes 0).1.exists_encode
  have hcontent : content {} (.publicKey point) = .ok payload :=
    content_eq_ok (CoseKey.ofPublicKey_of_parameters? rfl hes) hpayload
  have hcertified : HoldsKey (.bytes payload) ⟨es⟩ :=
    CoseKey.decode_eq_ok_iff.1 (PublicKey.decode_of_parameters? hes (.encoded hpayload rfl))
  have hexpects : Expects {} (.publicKey mirrored) ⟨fs⟩ :=
    .publicKey (CoseKey.ofPublicKey_of_parameters? rfl hfs)
  have hexpects' : Expects {} (.publicKey raw) ⟨fs'⟩ :=
    .publicKey (CoseKey.ofPublicKey_of_parameters? rfl hfs')
  have hlaw : (PublicKey.ed25519 issuer.ed25519Public).accepts
      (SignedMessage.sigStructure Suite.eddsa.header [] payload)
      ((PrivateKey.ed25519 issuer).signature 1
        (SignedMessage.sigStructure Suite.eddsa.header [] payload)) = true := by
    have hany : ((CoseKey.mk (point.parameters?.getD [])).encode.toOption.any fun b =>
        (PublicKey.ed25519 issuer.ed25519Public).accepts
          (SignedMessage.sigStructure Suite.eddsa.header [] b)
          ((PrivateKey.ed25519 issuer).signature 1
            (SignedMessage.sigStructure Suite.eddsa.header [] b))) = true := by
      set_option maxRecDepth 100000 in
      decide +kernel
    rwa [hes, Option.getD_some, hpayload, Except.toOption, Option.any_some] at hany
  obtain ⟨root, -, hroot, -, -, hverify⟩ :=
    exists_verify_issue (p := {}) rfl hs hsk 0 rfl trivial hlaw
  -- what the four comparisons are about
  have hpoint : p256.onCurve p256.baseX p256.baseY = true := by decide +kernel
  have hmirrored : p256.onCurve p256.baseX (p256.prime - p256.baseY) = true := by decide +kernel
  have hother : Bytes.ofNatBE Parameters.coordinateLength p256.baseY
      ≠ Bytes.ofNatBE Parameters.coordinateLength (p256.prime - p256.baseY) := by
    decide +kernel
  obtain ⟨hx, hy⟩ := PublicKey.coordinates_of_parameters? hes
  obtain ⟨hx', hy'⟩ := PublicKey.coordinates_of_parameters? hfs
  obtain ⟨hholds, -⟩ := PublicKey.holdsPoint_of_parameters? hpoint hes
  obtain ⟨hholds', -⟩ := PublicKey.holdsRaw_of_parameters? (c := .x25519) hfs'
  refine ⟨root, _, ⟨es⟩, ⟨fs⟩, ⟨fs'⟩, hroot, signPublicKey_eq hs hsk 0 hcontent, hcertified,
    ⟨hexpects, hmirrored, ?_, ?_⟩, hexpects', ?_, ?_, ?_⟩
  · rw [hy, hy']
    exact fun h => hother (Option.some.inj h)
  · exact verify_expected_of_samePinned hverify (.message _) hcertified hexpects ⟨_, hx, hx'⟩
  · rw [hholds.keyType, hholds'.keyType]
    decide
  · rw [hholds.curve, hholds'.curve]
    decide
  · exact verify_expected_of_samePinned hverify (.message _) hcertified hexpects'
      ⟨_, hx, hholds'.xBytes⟩

/-! ## What a verdict covers -/

/-- A certificate that verifies makes a chain with the key that it was verified under. -/
theorem validate_of_verify {rootKey : Value} (hroot : HoldsMessage verifying root)
    (hk : HoldsKey root.payload k) (hrootKey : HoldsKey rootKey k)
    (h : (verify p pr verifying candidate).result = .ok true) :
    (Chain.validate p pr (.list [rootKey, candidate])).result = .ok true := by
  obtain ⟨m, root', k', hm, hroot', hk', hvalid⟩ := verify_eq_true_iff.1 h
  -- it was verified under this key, because the verifying certificate certifies one key only
  obtain rfl := SignedMessage.holdsMessage_unique hroot hroot'
  have hsame := (CoseKey.decode_eq_ok_iff.2 hk).symm.trans (CoseKey.decode_eq_ok_iff.2 hk')
  obtain rfl : k = k' := Except.ok.inj hsame
  exact Chain.validate_eq_ok_iff.2 ⟨rootKey, candidate, .array rfl,
    Chain.linkHolds_eq_ok_iff.2 ⟨k, m, hrootKey, hm, hvalid⟩⟩

/-- **With an expected key, a verdict covers a certified key.** If the verdict is yes, the content of
the certificate is a structured key; and if the signature is valid but the content is none, the error
is that of input that cannot be read. -/
theorem verify_expected_certifies (p : Platform) (pr : Provider) (verifying : Value)
    {candidate : Value} {m : SignedMessage} (hm : HoldsMessage candidate m) {expected : Value}
    (h : expected ≠ .null) :
    ((verify p pr verifying candidate expected).result = .ok true →
      ∃ certified, HoldsKey m.payload certified) ∧
    ((verify p pr verifying candidate).result = .ok true →
      (¬ ∃ certified, HoldsKey m.payload certified) →
        ∃ e, (verify p pr verifying candidate expected).result = .error e ∧ IsDeserialization e) := by
  constructor
  · intro hverdict
    obtain ⟨m', root, k, hm', -, -, hverdict⟩ := verify_eq_ok_iff.1 hverdict
    obtain rfl := SignedMessage.holdsMessage_unique hm hm'
    rcases (afterReading_eq_true_iff.1 hverdict).2 with hnull | hchecked
    · exact absurd hnull h
    · obtain ⟨certified, -, hcertified, -⟩ := checkExpected_eq_ok_iff.1 hchecked
      exact ⟨certified, hcertified⟩
  · intro hsigned hnone
    obtain ⟨m', root, k, hm', hroot, hk, hvalid⟩ := verify_eq_true_iff.1 hsigned
    obtain rfl := SignedMessage.holdsMessage_unique hm hm'
    obtain ⟨e, he, hreason⟩ :
        ∃ e, (checkExpected p m expected).result = .error e ∧ IsDeserialization e :=
      checkExpected_of_not_holdsKey hnone
    refine ⟨e, ?_, hreason⟩
    rw [verify_of_holdsMessage hm hroot (CoseKey.decode_eq_ok_iff.2 hk),
      result_afterReading_of_ne_null hvalid h, he]
    rfl

/-- The encoding of a number is the encoding of no structured key. -/
theorem not_holdsKey_zero : ¬ ∃ k, HoldsKey (.bytes [0x00]) k := by
  rintro ⟨k, hk⟩
  have hdecode : CoseKey.decode (.bytes [0x00]) = .error (.keyNotMap "int") := rfl
  cases hdecode.symm.trans (CoseKey.decode_eq_ok_iff.2 hk)

/-- A signed number, with a certificate of the key that signed it: the signature is valid. -/
theorem verify_signed_zero :
    let issuer : RawKey := ⟨Bytes.zeros 32, rfl⟩
    ∃ root cert es,
      (signPublicKey {} .standard (.privateKey (.ed25519 issuer) 0)
        (.publicKey (.ed25519 issuer.ed25519Public))).result = .ok root ∧
      Provider.standard.sign {} (.bytes [0x00]) (.privateKey (.ed25519 issuer) 0) = .ok cert ∧
      cert.payload = .bytes [0x00] ∧
      HoldsKey root.payload ⟨es⟩ ∧ HoldsKey (.map .plain es) ⟨es⟩ ∧
      (verify {} .standard root.toValue cert.toValue).result = .ok true := by
  intro issuer
  have hsk : Suite.SignsWith .eddsa (.ed25519 issuer) := .eddsa issuer
  have hs : Suite.eddsa ∈ Provider.standard.suites := by decide
  have hlaw : (PublicKey.ed25519 issuer.ed25519Public).accepts
      (SignedMessage.sigStructure Suite.eddsa.header [] [0x00])
      ((PrivateKey.ed25519 issuer).signature 1
        (SignedMessage.sigStructure Suite.eddsa.header [] [0x00])) = true := by
    set_option maxRecDepth 100000 in
    decide +kernel
  obtain ⟨root, es, hroot, hkey, hmap, hverify⟩ :=
    exists_verify_issue (p := {}) rfl hs hsk 0 rfl trivial hlaw
  exact ⟨root, _, es, hroot, Provider.sign_eq {} hs hsk 0 [0x00], rfl, hkey, hmap, hverify⟩

/-- The signed number verifies with no key expected, but not with one, and be it without parameters:
what it certifies cannot be read. -/
theorem verify_expected_certifies_zero :
    ∃ root cert : SignedMessage,
      (verify {} .standard root.toValue cert.toValue).result = .ok true ∧
      ∃ e, (verify {} .standard root.toValue cert.toValue (.map .plain [])).result = .error e ∧
        IsDeserialization e := by
  obtain ⟨root, cert, -, -, -, hpayload, -, -, hverify⟩ := verify_signed_zero
  have hnone : ¬ ∃ certified, HoldsKey cert.payload certified := by
    rw [hpayload]
    exact not_holdsKey_zero
  have hexpected : Value.map .plain [] ≠ .null := by
    intro h
    cases h
  have hcertifies := verify_expected_certifies {} .standard root.toValue (.message cert) hexpected
  exact ⟨root, cert, hverify, hcertifies.2 hverify hnone⟩

/-- **Without an expected key a verdict covers no certified key**: the signed number verifies, as a
certificate and in a chain under the key that signed it. -/
theorem verify_uncertified :
    let issuer : RawKey := ⟨Bytes.zeros 32, rfl⟩
    ∃ root cert es,
      (signPublicKey {} .standard (.privateKey (.ed25519 issuer) 0)
        (.publicKey (.ed25519 issuer.ed25519Public))).result = .ok root ∧
      Provider.standard.sign {} (.bytes [0x00]) (.privateKey (.ed25519 issuer) 0) = .ok cert ∧
      (¬ ∃ certified, HoldsKey cert.payload certified) ∧
      (verify {} .standard root.toValue cert.toValue).result = .ok true ∧
      HoldsKey root.payload ⟨es⟩ ∧
      (Chain.validate {} .standard (.list [.map .plain es, cert.toValue])).result = .ok true := by
  intro issuer
  obtain ⟨root, cert, es, hroot, hcert, hpayload, hkey, hmap, hverify⟩ := verify_signed_zero
  have hnone : ¬ ∃ certified, HoldsKey cert.payload certified := by
    rw [hpayload]
    exact not_holdsKey_zero
  exact ⟨root, cert, es, hroot, hcert, hnone, hverify, hkey,
    validate_of_verify (.message root) hkey hmap hverify⟩

end Certificate

end DeviceTrust
