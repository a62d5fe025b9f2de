import DeviceTrust.Proofs.Certificate.Issued
import DeviceTrust.Proofs.Key.Checks

/-!
# Identifiers of public keys

A structured key carries an identifier beside its coordinates, and a public key has a digest of its
own. Both are made at different places from different encodings: the digest of a point is that of
its uncompressed form, while the coordinates are written one by one. As both write a coordinate in
full width, the identifier is what the fields of the structured key say it is
(`CoseKey.IdentifiedBy`), and it is still the digest of the key when this has been sent and read
again (`PublicKey.identifier_consistent`).
-/

set_option autoImplicit false

namespace DeviceTrust

def PublicKey.curve? : PublicKey → Option Curve
  | x25519 _ => some .x25519
  | ed25519 _ => some .ed25519
  | p256 _ _ => some .p256
  | p384 _ _ => none

/-- **The identifier that the fields of a structured key make**, with the curve that they name: the
digest of `x` on a raw curve, and on P-256 that of the byte 4 and both coordinates in full width. -/
inductive CoseKey.IdentifiedBy (k : CoseKey) : Curve → Bytes → Prop
  | raw (c : RawCurve) {x : Bytes} (hkty : k.get .kty = .int KeyType.okp.number)
      (hcrv : k.get .crv = .int c.curve.number) (hx : k.get .x = .bytes x) :
      IdentifiedBy k c.curve (Hash.sha256 x)
  | point {x y : Bytes} (hkty : k.get .kty = .int KeyType.ec2.number)
      (hcrv : k.get .crv = .int Curve.p256.number) (hx : k.get .x = .bytes x)
      (hy : k.get .y = .bytes y) (hxlength : x.length = 32) (hylength : y.length = 32) :
      IdentifiedBy k .p256 (Hash.sha256 (4 :: (x ++ y)))

namespace PublicKey

variable {p q : Platform} {k : PublicKey} {c : Curve} {es : Entries}

theorem exists_parameters?_of_curve? (h : k.curve? = some c) : ∃ es, k.parameters? = some es := by
  cases k with
  | x25519 _ | ed25519 _ | p256 _ _ => exact ⟨_, rfl⟩
  | p384 _ _ => cases h

/-! ## The identifier among the parameters -/

/-- The identifier among the parameters of a key is the digest of the bytes that stand for it. -/
theorem get_kid_of_parameters? (h : k.parameters? = some es) :
    CoseKey.get ⟨es⟩ .kid = .bytes (Hash.sha256 k.encoded) := by
  cases k with
  | x25519 _ | ed25519 _ | p256 _ _ =>
      cases h
      simp [keyParameters, KeyLabel.number, encoded]
  | p384 _ _ => cases h

/-- **The bytes that stand for a key can be put together from its parameters**, coordinates with
leading zeros included. -/
theorem identifiedBy_of_parameters? (hc : k.curve? = some c) (h : k.parameters? = some es) :
    CoseKey.IdentifiedBy ⟨es⟩ c (Hash.sha256 k.encoded) := by
  cases k with
  | x25519 key =>
      cases hc
      cases h
      refine .raw .x25519 (x := key.bytes) ?_ ?_ ?_ <;>
        simp [keyParameters, KeyLabel.number, RawCurve.curve]
  | ed25519 key =>
      cases hc
      cases h
      refine .raw .ed25519 (x := key.bytes) ?_ ?_ ?_ <;>
        simp [keyParameters, KeyLabel.number, RawCurve.curve]
  | p256 x y =>
      cases hc
      cases h
      -- the width of a coordinate is a parameter of the library here and of the curve there
      refine .point (x := Bytes.ofNatBE Parameters.coordinateLength x)
        (y := Bytes.ofNatBE Parameters.coordinateLength y) ?_ ?_ ?_ ?_
        (Bytes.length_ofNatBE _ _) (Bytes.length_ofNatBE _ _) <;>
        simp [keyParameters, KeyLabel.number]
  | p384 _ _ => cases hc

/-! ## The digest -/

theorem digest_eq_ok_iff {d : Bytes} :
    k.digest p = .ok d ↔ .sha256 ∉ p.missing ∧ Hash.sha256 k.encoded = d := by
  constructor
  · intro h
    obtain ⟨_, hrequire, h⟩ := bind_eq_ok.1 h
    exact ⟨Platform.require_eq_ok_iff.1 hrequire, Except.ok.inj h⟩
  · rintro ⟨hp, rfl⟩
    exact bind_eq_ok.2 ⟨(), Platform.require_eq_ok_iff.2 hp, rfl⟩

theorem keyDigest_eq (hp : .sha256 ∉ p.missing) (k : PublicKey) :
    Value.keyDigest p (.publicKey k) = .ok (Hash.sha256 k.encoded) :=
  digest_eq_ok_iff.2 ⟨hp, rfl⟩

/-- **The identifier in the structured form is the digest of the key**, on any platform: where there
is no digest, both fail alike. -/
theorem get_kid_ofValue (p : Platform) (hc : k.curve? = some c) :
    (CoseKey.ofValue p (.publicKey k)).map (fun key => key.get .kid) =
      (Value.keyDigest p (.publicKey k)).map Value.bytes := by
  by_cases hp : .sha256 ∈ p.missing
  · have hdigest : ∀ b, p.digest b = .error (.missing .sha256) := by
      intro b
      simp [Platform.digest, Platform.require, hp]
    have hkey : CoseKey.ofValue p (.publicKey k) = .error (.missing .sha256) := by
      cases k with
      | x25519 _ | ed25519 _ | p256 _ _ =>
          show (p.digest _ >>= _) = _
          rw [hdigest]
          rfl
      | p384 _ _ => cases hc
    rw [hkey, Value.keyDigest, digest, hdigest]
    rfl
  · obtain ⟨es, hes⟩ := exists_parameters?_of_curve? hc
    have hkey : CoseKey.ofValue p (.publicKey k) = .ok ⟨es⟩ := CoseKey.ofPublicKey_eq hp hes
    rw [hkey, keyDigest_eq hp]
    exact congrArg Except.ok (get_kid_of_parameters? hes)

/-! ## There and back -/

/-- **The reader of a key's curve gives the key**, in every form of its parameters. -/
theorem decodeOn_of_parameters? (hq : c.primitive ∉ q.missing) (hc : k.curve? = some c)
    (hk : k.IsValid) (h : k.parameters? = some es) {v : Value} (hv : CoseKey.Form ⟨es⟩ v) :
    decodeOn q v c = .ok k := by
  have hdecode : CoseKey.decode v = .ok ⟨es⟩ := decode_of_parameters? h hv
  cases k with
  | x25519 key =>
      cases hc
      exact bind_eq_ok.2 ⟨_, hdecode, toRawKey_of_parameters? (c := .x25519) hq h⟩
  | ed25519 key =>
      cases hc
      exact bind_eq_ok.2 ⟨_, hdecode, toRawKey_of_parameters? (c := .ed25519) hq h⟩
  | p256 x y =>
      cases hc
      exact bind_eq_ok.2 ⟨_, hdecode, toPoint_of_parameters? hq hk h⟩
  | p384 _ _ => cases hc

/-- **Identifiers of keys are consistent with the keys.** The identifier in the structured form of a
public key is the digest of the key, and both are there on any platform with the digest. This
identifier is the one that the structured form's own fields make on the curve of the key. The
structured form has an encoding, and from that, as a byte string of either sort, the structured form
is read again and a public key with the same digest, on any platform with the curve. -/
theorem identifier_consistent (p q : Platform) (k : PublicKey) (c : Curve)
    (hc : k.curve? = some c) (hk : k.IsValid) :
    (CoseKey.ofValue p (.publicKey k)).map (fun key => key.get .kid) =
        (Value.keyDigest p (.publicKey k)).map Value.bytes ∧
      (.sha256 ∉ p.missing → .sha256 ∉ q.missing → c.primitive ∉ q.missing →
        ∃ key d b, CoseKey.ofValue p (.publicKey k) = .ok key ∧
          Value.keyDigest p (.publicKey k) = .ok d ∧ key.get .kid = .bytes d ∧
          key.IdentifiedBy c d ∧ key.encode = .ok b ∧
          ∀ v : Value, v.byteString? = some b → CoseKey.decode v = .ok key ∧
            ∃ k', decodeOn q v c = .ok k' ∧ Value.keyDigest q (.publicKey k') = .ok d) := by
  refine ⟨get_kid_ofValue p hc, fun hp hq hread => ?_⟩
  obtain ⟨es, hes⟩ := exists_parameters?_of_curve? hc
  obtain ⟨b, hb⟩ := (portable_of_parameters? hes 0).1.exists_encode
  refine ⟨⟨es⟩, Hash.sha256 k.encoded, b, CoseKey.ofPublicKey_eq hp hes, keyDigest_eq hp k,
    get_kid_of_parameters? hes, identifiedBy_of_parameters? hc hes, hb, fun v hv => ?_⟩
  have hform : CoseKey.Form ⟨es⟩ v := .encoded hb hv
  exact ⟨decode_of_parameters? hes hform, k, decodeOn_of_parameters? hread hc hk hes hform,
    keyDigest_eq hq k⟩

/-- The point with the coordinate zero, all of which is padding: its identifier is the digest of the
byte 4, of thirty-two zeros and of the other coordinate, and that of the point that is read again. -/
theorem identifier_consistent_zero :
    let y := 0x99b7a386f1d07c29dbcc42a27b5f9449abe3d50de25178e8d7407a95e8b06c0b
    ∃ key d b, CoseKey.ofValue {} (.publicKey (.p256 0 y)) = .ok key ∧ key.get .kid = .bytes d ∧
      key.IdentifiedBy .p256 d ∧ key.encode = .ok b ∧
      ∃ k', decodePoint {} (.bytes b) = .ok k' ∧ Value.keyDigest {} (.publicKey k') = .ok d := by
  intro y
  have hcurve : DeviceTrust.p256.onCurve 0 y = true := by decide +kernel
  obtain ⟨-, hconsistent⟩ := identifier_consistent {} {} (.p256 0 y) .p256 rfl hcurve
  obtain ⟨key, d, b, hkey, -, hkid, hidentified, hb, hback⟩ :=
    hconsistent List.not_mem_nil List.not_mem_nil List.not_mem_nil
  exact ⟨key, d, b, hkey, hkid, hidentified, hb, (hback (.bytes b) rfl).2⟩

end PublicKey

end DeviceTrust
