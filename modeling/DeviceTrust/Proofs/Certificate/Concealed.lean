import DeviceTrust.Certificate.Chain
import DeviceTrust.Proofs.Certificate.Verification
import DeviceTrust.Proofs.Cose.Concealed

/-!
# The secret part of a key never shows

Two runs of one operation, on maps that are the same but for what stands under the label of the
secret part (`Value.AlikeButSecret`): whatever that is, and be it something that cannot be encoded,
both runs have the same outcome. They give the same value or fail with the same error, which quotes
the same values and has the same causes, and they write the same log records
(`secret_has_no_influence`).

A map is made a key first, and from the key on nothing depends on the secret part: what is certified
or expected is what is published of the key, and the readers look under other labels.
-/

set_option autoImplicit false

namespace DeviceTrust

/-- **Maps that are alike but for the secret part**, or structured keys. A map has no repeated
label. -/
inductive Value.AlikeButSecret : Value → Value → Prop
  | map (flavour : MapFlavour) {es fs : Entries} (hd : es.Distinct) (h : es.AlikeButSecret fs) :
      AlikeButSecret (.map flavour es) (.map flavour fs)
  | key {es fs : Entries} (hd : es.Distinct) (h : es.AlikeButSecret fs) :
      AlikeButSecret (.coseKey es) (.coseKey fs)

namespace Value.AlikeButSecret

variable {v w : Value}

/-! ## Keys -/

theorem exists_decode (h : v.AlikeButSecret w) :
    ∃ k k', CoseKey.decode v = .ok k ∧ CoseKey.decode w = .ok k' ∧ k.AlikeButSecret k' := by
  cases h with
  | map flavour hd h => exact ⟨_, _, rfl, rfl, CoseKey.alikeButSecret_new hd h⟩
  | key hd h => exact ⟨_, _, rfl, rfl, hd, h⟩

theorem literal_eq (h : v.AlikeButSecret w) :
    (v.entries?.map fun es => (CoseKey.new es).toValue.literal)
      = w.entries?.map fun es => (CoseKey.new es).toValue.literal := by
  cases h with
  | map _ hd h | key hd h =>
      exact congrArg some (CoseKey.alikeButSecret_new hd h).literal_eq

theorem ofValue_eq (h : v.AlikeButSecret w) (p : Platform) :
    CoseKey.ofValue p v = CoseKey.ofValue p w := by
  cases h with
  | map _ hd h => exact congrArg Except.ok (CoseKey.alikeButSecret_new hd h).publicKey_eq
  | key hd h => exact congrArg Except.ok (CoseKey.AlikeButSecret.publicKey_eq ⟨hd, h⟩)

theorem decodeRaw_eq (h : v.AlikeButSecret w) (p : Platform) (c : RawCurve) :
    PublicKey.decodeRaw p c v = PublicKey.decodeRaw p c w := by
  obtain ⟨k, k', hk, hk', halike⟩ := h.exists_decode
  unfold PublicKey.decodeRaw
  rw [hk, hk']
  exact halike.toRawKey_eq p c

theorem decodePoint_eq (h : v.AlikeButSecret w) (p : Platform) :
    PublicKey.decodePoint p v = PublicKey.decodePoint p w := by
  obtain ⟨k, k', hk, hk', halike⟩ := h.exists_decode
  unfold PublicKey.decodePoint
  rw [hk, hk']
  exact halike.toPoint_eq p

/-! ## Certificates and chains -/

theorem signPublicKey_eq (h : v.AlikeButSecret w) (p : Platform) (pr : Provider) (sk : Value) :
    Certificate.signPublicKey p pr sk v = Certificate.signPublicKey p pr sk w := by
  have hcontent : Certificate.content p v = Certificate.content p w := by
    rw [Certificate.content, Certificate.content, h.ofValue_eq p]
  unfold Certificate.signPublicKey
  rw [hcontent]

theorem checkExpected_eq (h : v.AlikeButSecret w) (p : Platform) (m : SignedMessage) :
    Certificate.checkExpected p m v = Certificate.checkExpected p m w := by
  have hexpected : Certificate.expectedKey p v = Certificate.expectedKey p w := by
    have hbytes : v.byteString? = none ∧ w.byteString? = none := by
      cases h with
      | map _ _ _ | key _ _ => exact ⟨rfl, rfl⟩
    unfold Certificate.expectedKey
    rw [hbytes.1, hbytes.2]
    simp only [Option.isSome_none, Bool.false_eq_true, if_false, pure_bind, h.ofValue_eq p]
  unfold Certificate.checkExpected
  rw [hexpected]

theorem verify_expected_eq (h : v.AlikeButSecret w) (p : Platform) (pr : Provider)
    (verifying candidate : Value) :
    Certificate.verify p pr verifying candidate v = Certificate.verify p pr verifying candidate w := by
  unfold Certificate.verify
  refine Traced.bind_congr fun m _ => Traced.bind_congr fun root _ => ?_
  refine Traced.bind_congr fun k _ => Traced.bind_congr fun valid _ => ?_
  have hchecked := h.checkExpected_eq p m
  cases h with
  | map _ _ _ | key _ _ =>
      -- neither of the two is null, so both are compared if the signature is valid
      cases valid with
      | false => rfl
      | true =>
          show (Certificate.checkExpected p m _ >>= _) = _
          rw [hchecked]
          rfl

theorem linkHolds_eq (h : v.AlikeButSecret w) (p : Platform) (pr : Provider) (device : Value) :
    Chain.linkHolds p pr v device = Chain.linkHolds p pr w device := by
  obtain ⟨k, k', hk, hk', halike⟩ := h.exists_decode
  unfold Chain.linkHolds
  rw [hk, hk', Traced.liftM_ok_bind, Traced.liftM_ok_bind]
  exact Traced.bind_congr fun m _ => halike.verify_eq p pr m

theorem validate_eq (h : v.AlikeButSecret w) (p : Platform) (pr : Provider) (device : Value) :
    Chain.validate p pr (.list [v, device]) = Chain.validate p pr (.list [w, device]) := by
  have hread : ∀ u, Chain.entries (.list [u, device]) = .ok [u, device] := fun _ => rfl
  unfold Chain.validate
  rw [hread, hread]
  show ((Chain.linkHolds p pr v device).mapError Chain.reworded >>= _) = _
  rw [h.linkHolds_eq]
  rfl

end Value.AlikeButSecret

/-- **The secret part has no influence on any outcome.** Take two maps with the same entries in the
same order but for what stands under the label of the secret part. They show the same text as keys,
stand for the same public key, and are read as the same key on every curve; certifying them gives the
same certificate; a chain with either as its root has the same outcome, and so has a verification
that expects either. The outcomes agree in values and errors, and where records are written, in
these as well. -/
theorem secret_has_no_influence (p : Platform) (pr : Provider) {m m' : Value}
    (h : m.AlikeButSecret m') :
    (m.entries?.map fun es => (CoseKey.new es).toValue.literal)
        = (m'.entries?.map fun es => (CoseKey.new es).toValue.literal) ∧
      CoseKey.ofValue p m = CoseKey.ofValue p m' ∧
      (∀ c, PublicKey.decodeRaw p c m = PublicKey.decodeRaw p c m') ∧
      PublicKey.decodePoint p m = PublicKey.decodePoint p m' ∧
      (∀ sk, Certificate.signPublicKey p pr sk m = Certificate.signPublicKey p pr sk m') ∧
      (∀ c, Chain.validate p pr (.list [m, c]) = Chain.validate p pr (.list [m', c])) ∧
      ∀ v c, Certificate.verify p pr v c m = Certificate.verify p pr v c m' :=
  ⟨h.literal_eq, h.ofValue_eq p, h.decodeRaw_eq p, h.decodePoint_eq p, h.signPublicKey_eq p pr,
    h.validate_eq p pr, h.verify_expected_eq p pr⟩

/-- A map with a secret part, and one with an object of an unknown type in its place. -/
theorem secret_has_no_influence_unknown :
    let m : Value := .map .plain [(.int 1, .int 1), (.int (-4), .bytes [0x2a]), (.int (-1), .int 4)]
    let m' : Value := .map .plain [(.int 1, .int 1), (.int (-4), .unknown 1), (.int (-1), .int 4)]
    m.AlikeButSecret m' ∧ CoseKey.ofValue {} m = CoseKey.ofValue {} m' ∧
      ∀ c, Chain.validate {} .standard (.list [m, c]) = Chain.validate {} .standard (.list [m', c]) := by
  intro m m'
  have hlabels : Entries.labels [(.int 1, .int 1), (.int (-4), .bytes [0x2a]), (.int (-1), .int 4)]
      = [1, -4, -1].map Value.int := rfl
  have hnormal := CoseKey.normal_of_integers hlabels (by decide) (by simp [Value.plainNumber])
  have halike : m.AlikeButSecret m' := by
    refine .map .plain hnormal.distinct (.cons ⟨rfl, fun _ => rfl⟩ (.cons ⟨rfl, fun h => ?_⟩
      (.cons ⟨rfl, fun _ => rfl⟩ .nil)))
    -- the second label is the secret one
    cases h
  have hconcealed := secret_has_no_influence {} .standard halike
  exact ⟨halike, hconcealed.2.1, hconcealed.2.2.2.2.2.1⟩

end DeviceTrust
