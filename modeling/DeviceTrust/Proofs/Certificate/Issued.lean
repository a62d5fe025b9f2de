import DeviceTrust.Proofs.Certificate.Verification
import DeviceTrust.Proofs.Cose.RoundTrip
import DeviceTrust.Proofs.Cose.Signing
import DeviceTrust.Proofs.Key.RoundTrip

/-!
# Certificates that are issued verify

A certificate is issued for anything that has a public structured form (`Certifiable`): a public
key, or a key or map with plain contents. Signing gives the message that the suite makes of the
encoding of this form (`signPublicKey_eq`). A certificate of a verification key certifies it as it
is, so that what this key signs verifies under it, in whatever form the two are handed over
(`verify_issued`).

That a public key is a point of its curve, and that it accepts what its private key signs, are laws
of the signature schemes and not of this library; they are taken as hypotheses, the second for the
bytes at hand.
-/

set_option autoImplicit false

namespace DeviceTrust

namespace CoseKey

/-- **Leaving the secret part out changes no other parameter.** -/
theorem get_publicKey {k : CoseKey} (hl : ∀ e ∈ k.parameters, IsLabel e.1) {label : KeyLabel}
    (h : label ≠ .d) : k.publicKey.get label = k.get label := by
  unfold get find? publicKey Entries.withoutSecret
  rw [Entries.find?_filter]
  intro e he hagrees
  rw [Bool.not_eq_true', ← Bool.not_eq_true]
  intro hsecret
  -- the entry is found under the label, and so it stands for no other integer
  have hlabel : e.1 = .int label.number := (hl e he).int_agrees_iff.1 hagrees
  rw [Value.isSecretLabel, hlabel, ← Value.int_agrees, Value.int_agrees_int] at hsecret
  exact h (KeyLabel.number_injective hsecret.symm)

end CoseKey

/-- **A public key that is one**: a key on P-256 is a point of the curve. -/
def PublicKey.IsValid : PublicKey → Prop
  | p256 x y => DeviceTrust.p256.onCurve x y = true
  | x25519 _ | ed25519 _ | p384 _ _ => True

namespace Certificate

variable {p : Platform} {pr : Provider} {s : Suite} {sk : PrivateKey} {pub : PublicKey}
  {target : Value} {depth : Nat} {k : CoseKey} {m : SignedMessage} {payload : Bytes}

/-! ## What can be certified -/

/-- **What can be certified**: a public key that has a structured form, or a map or structured key
with integers, texts and byte strings as labels and plain values under them. -/
inductive Certifiable (depth : Nat) : Value → Prop
  | publicKey {k : PublicKey} {es : Entries} (h : k.parameters? = some es) :
      Certifiable depth (.publicKey k)
  | map (flavour : MapFlavour) {es : Entries} (hl : ∀ e ∈ es, IsLabel e.1.plainNumber)
      (hc : ∀ e ∈ es, Cbor.Plain depth e.2) : Certifiable depth (.map flavour es)
  | key {es : Entries} (hl : ∀ e ∈ es, IsLabel e.1.plainNumber)
      (hc : ∀ e ∈ es, Cbor.Plain depth e.2) : Certifiable depth (CoseKey.new es).toValue

/-- **What can be certified has a public structured form**, the same on every platform. -/
theorem ofValue_of_certifiable (h : Certifiable depth target) :
    ∃ k : CoseKey, k.Portable depth ∧
      ∀ p : Platform, p.missing = [] → CoseKey.ofValue p target = .ok k := by
  cases h with
  | publicKey h =>
      exact ⟨_, (PublicKey.portable_of_parameters? h depth).1,
        fun p hp => CoseKey.ofPublicKey_of_parameters? hp h⟩
  | map flavour hl hc => exact ⟨_, (CoseKey.portable_new hl hc).publicKey, fun p _ => rfl⟩
  | key hl hc => exact ⟨_, (CoseKey.portable_new hl hc).publicKey, fun p _ => rfl⟩

theorem content_eq_ok {b : Bytes} (hk : CoseKey.ofValue p target = .ok k) (hb : k.encode = .ok b) :
    content p target = .ok b := by
  have hencode : (do (← CoseKey.ofValue p target).encode : Except Error Bytes) = .ok b :=
    bind_eq_ok.2 ⟨k, hk, hb⟩
  unfold content
  rw [hencode]

theorem exists_of_content_eq_ok {b : Bytes} (h : content p target = .ok b) :
    ∃ k, CoseKey.ofValue p target = .ok k ∧ k.encode = .ok b := by
  unfold content at h
  split at h
  · rename_i hencode
    cases h
    exact bind_eq_ok.1 hencode
  · cases h

/-! ## Signing -/

/-- **Signing a certificate** gives the message that the suite makes of the content. -/
theorem signPublicKey_eq (hs : s ∈ pr.suites) (hsk : s.SignsWith sk) (mark : Mark)
    (hb : content p target = .ok payload) :
    (signPublicKey p pr (.privateKey sk mark) target).result
      = .ok (s.issue sk p.nonce payload) := by
  have halgorithm : ∃ v, (s.issue sk p.nonce payload).algorithm = .ok v := by
    obtain ⟨v, hv, -⟩ := (SignedMessage.algorithm_eq_ok_iff s.header _ _ _).2 s.names_header
    exact ⟨v, hv⟩
  obtain ⟨v, hv⟩ := halgorithm
  unfold signPublicKey
  simp only [Traced.result_bind, Traced.result_lift, hb, Provider.sign_eq p hs hsk]
  show (SignedMessage.algorithm _ >>= _) = _
  rw [hv]
  rfl

/-- **A certificate is signed with a key of one of the suites**, and is the message that the suite
makes of the content. -/
theorem signPublicKey_eq_ok_iff {key : Value} :
    (signPublicKey p pr key target).result = .ok m ↔
      ∃ s ∈ pr.suites, ∃ sk mark payload, s.SignsWith sk ∧ key = .privateKey sk mark ∧
        content p target = .ok payload ∧ m = s.issue sk p.nonce payload := by
  constructor
  · intro h
    unfold signPublicKey at h
    simp only [Traced.result_bind, Traced.result_lift] at h
    obtain ⟨payload, hpayload, h⟩ := bind_eq_ok.1 h
    obtain ⟨certificate, hcertificate, h⟩ := bind_eq_ok.1 h
    obtain ⟨algorithm, -, h⟩ := bind_eq_ok.1 h
    cases h
    obtain ⟨s, hs, sk, mark, hsk, hkey, hm⟩ := Provider.sign_eq_ok_iff.1 hcertificate
    exact ⟨s, hs, sk, mark, payload, hsk, hkey, hpayload, hm⟩
  · rintro ⟨s, hs, sk, mark, payload, hsk, rfl, hpayload, rfl⟩
    exact signPublicKey_eq hs hsk mark hpayload

/-- **Whoever signs a certificate**, it certifies the content under the header of a suite. -/
theorem signPublicKey_eq_ok {key : Value} (h : (signPublicKey p pr key target).result = .ok m) :
    ∃ payload signature : Bytes, ∃ s : Suite, content p target = .ok payload ∧
      m = ⟨.bytes s.header, .map .plain [], .bytes payload, .bytes signature⟩ := by
  obtain ⟨s, -, sk, -, payload, -, -, hpayload, hm⟩ := signPublicKey_eq_ok_iff.1 h
  exact ⟨payload, _, s, hpayload, hm⟩

/-- An issued certificate takes little more than its content. -/
theorem length_encode_issue (hsk : s.SignsWith sk) {nonce : Nat} {payload b : Bytes}
    (hb : (s.issue sk nonce payload).encode = .ok b) : b.length ≤ payload.length + 97 := by
  cases (SignedMessage.encode_eq _ _ _).symm.trans hb
  have hheader := Cbor.length_encodeBytes_le s.header
  have hpayload := Cbor.length_encodeBytes_le payload
  have hsignature := Cbor.length_encodeBytes_le
    (sk.signature nonce (SignedMessage.sigStructure s.header [] payload))
  have hthree : s.header.length = 3 := by cases s <;> rfl
  rw [Suite.length_signature hsk] at hsignature
  rw [hthree] at hheader
  simp only [List.length_append, List.length_cons, List.length_nil]
  omega

/-- An issued certificate has an encoding, and one of a length that a head can tell if the length of
its content can be counted. -/
theorem encode_issue (hsk : s.SignsWith sk) (nonce : Nat) (payload : Bytes) :
    ∃ b, (s.issue sk nonce payload).encode = .ok b ∧
      ((payload.length : Int) ≤ Value.greatestCount → b.length < 2 ^ 64) := by
  have hencode : ∃ b, (s.issue sk nonce payload).encode = .ok b :=
    ⟨_, SignedMessage.encode_eq _ _ _⟩
  obtain ⟨b, hb⟩ := hencode
  have hle := length_encode_issue hsk hb
  refine ⟨b, hb, fun hlength => ?_⟩
  unfold Value.greatestCount at hlength
  omega

/-! ## Verification -/

/-- **A suite reads the public key of its private keys** in the parameters of this key. -/
theorem reads_of_parameters? (hsk : s.SignsWith sk) (hpub : sk.publicKey? = some pub)
    (hvalid : pub.IsValid) {es : Entries} (hes : pub.parameters? = some es) :
    CoseKey.Allows ⟨es⟩ s.number ∧ s.Reads ⟨es⟩ pub := by
  cases hsk with
  | eddsa key =>
      cases hpub
      obtain ⟨hholds, halg⟩ := PublicKey.holdsRaw_of_parameters? (c := .ed25519) hes
      exact ⟨.inr ⟨_, halg, rfl⟩, .eddsa hholds⟩
  | es256 d =>
      cases hpub
      obtain ⟨hholds, halg⟩ := PublicKey.holdsPoint_of_parameters? hvalid hes
      exact ⟨.inr ⟨_, halg, rfl⟩, .es256 hholds⟩

theorem exists_parameters? (hsk : s.SignsWith sk) (hpub : sk.publicKey? = some pub) :
    ∃ es, pub.parameters? = some es := by
  cases hsk with
  | eddsa _ | es256 _ =>
      cases hpub
      exact ⟨_, rfl⟩

/-- A valid signature goes on to the comparison with the expected key, and so does its answer. -/
theorem result_afterReading_of_valid {expected : Value}
    (h : (pr.verify p m k.toValue).result = .ok true)
    (he : expected = .null ∨ (checkExpected p m expected).result = .ok ()) :
    (afterReading p pr m k expected).result = .ok true := by
  unfold afterReading
  rw [Traced.result_bind, Traced.result_mapError, h]
  refine bind_eq_ok.2 ⟨true, rfl, ?_⟩
  rw [if_neg (by decide)]
  rcases he with rfl | he
  · rfl
  · dsimp only
    split
    · rfl
    · rw [Bool.not_false, if_pos rfl, Traced.result_bind, he]
      rfl

theorem requirePinned_eq_ok_iff {side : PinnedSide} :
    requirePinned side k = .ok () ↔ ∃ x, (k.get .x).byteString? = some x := by
  rw [← Value.kindOf_eq_byteString_iff]
  unfold requirePinned
  split
  · rename_i h
    simp [h]
  · rename_i h
    simp [h]

/-- Two keys with the same byte string `x` are the same to pinning. -/
theorem checkExpected_of_byteString? {expected : Value} {certified k : CoseKey} {x : Bytes}
    (hc : certifiedKey m = .ok certified) (he : expectedKey p expected = .ok k)
    (hx : (certified.get .x).byteString? = some x) (hx' : (k.get .x).byteString? = some x) :
    (checkExpected p m expected).result = .ok () := by
  have hsame : (certified.get .x).same (k.get .x) = true :=
    (Value.same_iff_of_byteString? hx hx').2 rfl
  unfold checkExpected
  simp only [Traced.result_bind, Traced.result_lift]
  refine bind_eq_ok.2 ⟨certified, hc, bind_eq_ok.2 ⟨k, he, ?_⟩⟩
  refine bind_eq_ok.2 ⟨(), requirePinned_eq_ok_iff.2 ⟨x, hx⟩, ?_⟩
  refine bind_eq_ok.2 ⟨(), requirePinned_eq_ok_iff.2 ⟨x, hx'⟩, ?_⟩
  rw [hsame]
  rfl

theorem checkExpected_eq_ok {expected : Value} {certified k : CoseKey} {x : Bytes}
    (hc : certifiedKey m = .ok certified) (he : expectedKey p expected = .ok k)
    (hx : certified.get .x = .bytes x) (hx' : (k.get .x).byteString? = some x) :
    (checkExpected p m expected).result = .ok () := by
  refine checkExpected_of_byteString? hc he ?_ hx'
  rw [hx]
  rfl

/-- What the expected key of a certificate is read as: a target as its public structured form, and
the encoding of this form as what is read back. -/
theorem expectedKey_of_certifiable (h : Certifiable depth target)
    (hk : CoseKey.ofValue p target = .ok k) : expectedKey p target = .ok k := by
  have hvalue : target.byteString? = none := by
    cases h <;> rfl
  unfold expectedKey
  rw [hvalue]
  refine bind_eq_ok.2 ⟨target, rfl, ?_⟩
  dsimp only
  rw [hk]

theorem expectedKey_of_encode {b : Bytes} (hk : CoseKey.decode (.bytes b) = .ok k) :
    expectedKey p (.bytes b) = .ok k.publicKey := by
  unfold expectedKey
  show ((CoseKey.decode (.bytes b)).map CoseKey.toValue >>= _) = _
  rw [hk]
  rfl

/-- **Every form of an issued certificate holds what was signed.** -/
theorem holdsMessage_of_form_issue (hsk : s.SignsWith sk) {nonce : Nat}
    (hlength : (payload.length : Int) ≤ Value.greatestCount) {v : Value}
    (h : (s.issue sk nonce payload).Form v) :
    ∃ u, HoldsMessage v ⟨.bytes s.header, u, .bytes payload,
      .bytes (sk.signature nonce (SignedMessage.sigStructure s.header [] payload))⟩ := by
  obtain ⟨b, hb, hfits⟩ := encode_issue hsk nonce payload
  have hnoEntries : Cbor.Plain 0 (.map .plain []) := .noEntries .plain
  refine SignedMessage.holdsMessage_of_form (.inr ⟨_, s.encodesMap_header⟩) hnoEntries (by decide)
    rfl (fun b' hb' => ?_) h
  cases hb.symm.trans hb'
  exact hfits hlength

/-- **A certificate of a public key and one issued with its private key can be read**, in any form
of the two: the first certifies the key by its parameters. -/
theorem readable_of_forms {s₀ : Suite} {sk₀ : PrivateKey} (hsk₀ : s₀.SignsWith sk₀)
    (hsk : s.SignsWith sk) {es : Entries} (hes : pub.parameters? = some es) {payload₀ : Bytes}
    (hpayload₀ : CoseKey.encode ⟨es⟩ = .ok payload₀)
    (hlength : (payload.length : Int) ≤ Value.greatestCount) {nonce₀ nonce : Nat} {v₀ v : Value}
    (h₀ : (s₀.issue sk₀ nonce₀ payload₀).Form v₀) (h : (s.issue sk nonce payload).Form v) :
    ∃ u, Readable v₀ v ⟨.bytes s.header, u, .bytes payload,
      .bytes (sk.signature nonce (SignedMessage.sigStructure s.header [] payload))⟩ ⟨es⟩ := by
  obtain ⟨hportable, hback⟩ := PublicKey.portable_of_parameters? hes 0
  have hshort := PublicKey.length_encode_of_parameters? hes hpayload₀
  have hmap := hportable.encodesMap (by decide) hpayload₀ (by omega)
  rw [hback] at hmap
  have hlength₀ : (payload₀.length : Int) ≤ Value.greatestCount := by
    unfold Value.greatestCount
    omega
  obtain ⟨u₀, hroot⟩ := holdsMessage_of_form_issue hsk₀ hlength₀ h₀
  obtain ⟨u, hcert⟩ := holdsMessage_of_form_issue hsk hlength h
  exact ⟨u, hcert, _, hroot, payload₀, es, rfl, hmap,
    (CoseKey.new_eq_of_normal hportable.normal).symm⟩

/-- **Everything that is issued verifies.** Certify the public key of a signing key with any key of
the provider, and anything that can be certified with the signing key itself: both succeed, and the
second certificate verifies against the first, in whatever form the two are handed over. If what is
certified is nested within the limit and its structured form has a byte string `x`, it verifies also
with the target as the expected key, and with the encoding of its structured form.

The laws of the signature schemes are hypotheses on the signing key alone: its public key is one
(`hvalid`) and accepts the one signature that is verified (`hlaw`). What is certified has to have a
length that can be counted (`hlength`). -/
theorem verify_issued (p₀ p₁ p₂ : Platform) (h₀ : p₀.missing = []) (h₁ : p₁.missing = [])
    (h₂ : p₂.missing = []) {pr : Provider} {s₀ s : Suite} (hs₀ : s₀ ∈ pr.suites)
    (hs : s ∈ pr.suites) {sk₀ sk : PrivateKey} (hsk₀ : s₀.SignsWith sk₀) (hsk : s.SignsWith sk)
    (mark₀ mark : Mark) {pub : PublicKey} (hpub : sk.publicKey? = some pub)
    (hvalid : pub.IsValid) {depth : Nat} {target : Value} (ht : Certifiable depth target)
    (hlength : ∀ b, content p₁ target = .ok b → (b.length : Int) ≤ Value.greatestCount)
    (hlaw : ∀ b, content p₁ target = .ok b →
      pub.accepts (SignedMessage.sigStructure s.header [] b)
        (sk.signature p₁.nonce (SignedMessage.sigStructure s.header [] b)) = true) :
    ∃ root cert b₀ b,
      (signPublicKey p₀ pr (.privateKey sk₀ mark₀) (.publicKey pub)).result = .ok root ∧
      (signPublicKey p₁ pr (.privateKey sk mark) target).result = .ok cert ∧
      root.encode = .ok b₀ ∧ cert.encode = .ok b ∧
      ∀ v₀ v, root.Form v₀ → cert.Form v →
        (verify p₂ pr v₀ v).result = .ok true ∧
        (depth < Cbor.depthLimit → ∀ k x, CoseKey.ofValue p₁ target = .ok k →
          (k.get .x).byteString? = some x →
            (verify p₂ pr v₀ v target).result = .ok true ∧
            ∀ c, k.encode = .ok c → (verify p₂ pr v₀ v (.bytes c)).result = .ok true) := by
  -- what is certified, by its public structured form and the encoding of it
  obtain ⟨es, hes⟩ := exists_parameters? hsk hpub
  obtain ⟨hportable₀, -⟩ := PublicKey.portable_of_parameters? hes 0
  obtain ⟨payload₀, hpayload₀⟩ := hportable₀.exists_encode
  obtain ⟨k, hportable, hk⟩ := ofValue_of_certifiable ht
  obtain ⟨payload, hpayload⟩ := hportable.exists_encode
  have hcontent₀ : content p₀ (.publicKey pub) = .ok payload₀ :=
    content_eq_ok (CoseKey.ofPublicKey_of_parameters? h₀ hes) hpayload₀
  have hcontent : content p₁ target = .ok payload := content_eq_ok (hk p₁ h₁) hpayload
  have hfits := hlength payload hcontent
  obtain ⟨b₀, hb₀, -⟩ := encode_issue hsk₀ p₀.nonce payload₀
  obtain ⟨b, hb, -⟩ := encode_issue hsk p₁.nonce payload
  refine ⟨_, _, b₀, b, signPublicKey_eq hs₀ hsk₀ mark₀ hcontent₀,
    signPublicKey_eq hs hsk mark hcontent, hb₀, hb, fun v₀ v hv₀ hv => ?_⟩
  -- both are read, and the signature is valid under the key that the first one certifies
  obtain ⟨u, hreadable⟩ := readable_of_forms hsk₀ hsk hes hpayload₀ hfits hv₀ hv
  have hvetted := SignedMessage.vetted_of_form (s₀.wellFormed_issue _ _ _) hv₀
  obtain ⟨hallows, hreads⟩ := reads_of_parameters? hsk hpub hvalid hes
  have hverify := (Provider.verify_eq_ok_iff (u := u) h₂ hportable₀.normal).2
    ⟨s, hs, s.names_header, hallows, pub, hreads, hlaw payload hcontent⟩
  refine ⟨?_, fun hdepth k' x hk' hx => ?_⟩
  · rw [verify_of_readable hvetted hreadable]
    exact result_afterReading_of_valid hverify (.inl rfl)
  · rw [hk p₁ h₁] at hk'
    cases hk'
    have hlength' : payload.length < 2 ^ 64 := by
      unfold Value.greatestCount at hfits
      omega
    -- the certified key is read back with the same byte string, which is all that is compared
    have hdecode := hportable.decode_encode hdepth hpayload hlength'
    have hcertified : (k.asRead.get .x) = .bytes x := by
      rw [CoseKey.get_asRead, Cbor.asRead_of_byteString? hx]
    refine ⟨?_, fun c hc => ?_⟩
    · rw [verify_of_readable hvetted hreadable]
      refine result_afterReading_of_valid hverify (.inr ?_)
      exact checkExpected_eq_ok hdecode (expectedKey_of_certifiable ht (hk p₂ h₂)) hcertified hx
    · rw [hpayload] at hc
      cases hc
      rw [verify_of_readable hvetted hreadable]
      refine result_afterReading_of_valid hverify (.inr ?_)
      refine checkExpected_eq_ok hdecode (expectedKey_of_encode hdecode) hcertified ?_
      rw [CoseKey.get_publicKey hportable.labels_asRead (by decide), hcertified]
      rfl

/-- An Ed25519 key that certifies a key on P-256, and this one a map with a byte string `x`: the
encoding of the second certificate verifies against the first, and so it does with the map as the
expected key. -/
theorem verify_issued_es256 :
    let issuer : Value := .privateKey (.ed25519 ⟨Bytes.zeros 32, rfl⟩) 0
    let key : Value := .privateKey (.p256 7) 1
    let pub : PublicKey := .p256 (p256.publicOf 7).1 (p256.publicOf 7).2
    let target : Value := .map .plain [(.int (-2), .bytes [7])]
    ∃ root cert b,
      (signPublicKey {} .standard issuer (.publicKey pub)).result = .ok root ∧
      (signPublicKey {} .standard key target).result = .ok cert ∧ cert.encode = .ok b ∧
      (verify {} .standard root.toValue (.bytes b)).result = .ok true ∧
      (verify {} .standard root.toValue (.bytes b) target).result = .ok true := by
  intro issuer key pub target
  have hvalue : CoseKey.ofValue {} target = .ok ⟨[(.int (-2), .bytes [7])]⟩ := rfl
  have hcontent : content {} target = .ok [0xa1, 0x21, 0x41, 0x07] := content_eq_ok hvalue rfl
  have htarget : Certifiable 0 target := by
    refine .map .plain (fun e he => ?_) (fun e he => ?_)
    · rw [List.mem_singleton.1 he]
      exact .int (-2)
    · rw [List.mem_singleton.1 he]
      exact .bytes [7]
  have hvalid : pub.IsValid := by
    show p256.onCurve (p256.publicOf 7).1 (p256.publicOf 7).2 = true
    set_option maxRecDepth 100000 in
    decide +kernel
  have hlaw : pub.accepts
      (SignedMessage.sigStructure Suite.es256.header [] [0xa1, 0x21, 0x41, 0x07])
      ((PrivateKey.p256 7).signature 1
        (SignedMessage.sigStructure Suite.es256.header [] [0xa1, 0x21, 0x41, 0x07])) = true := by
    set_option maxRecDepth 100000 in
    decide +kernel
  obtain ⟨root, cert, -, b, hroot, hcert, -, hb, hverify⟩ := verify_issued {} {} {}
    rfl rfl rfl (show Suite.eddsa ∈ Provider.standard.suites by decide)
    (show Suite.es256 ∈ Provider.standard.suites by decide) (.eddsa _) (.es256 7) 0 1 rfl hvalid
    htarget (fun b hb => by cases hcontent.symm.trans hb; decide)
    (fun b hb => by cases hcontent.symm.trans hb; exact hlaw)
  obtain ⟨hplain, hpinned⟩ := hverify root.toValue (.bytes b) .message (.encoded hb rfl)
  refine ⟨root, cert, b, hroot, hcert, hb, hplain, ?_⟩
  exact (hpinned (by decide) _ [7] hvalue (by simp [KeyLabel.number, Value.byteString?])).1

end Certificate

end DeviceTrust
