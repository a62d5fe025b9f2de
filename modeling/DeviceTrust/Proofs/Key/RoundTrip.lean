import DeviceTrust.Proofs.Key.Reading
import DeviceTrust.Proofs.Key.Writing

/-!
# Public keys there and back

A structured key is handed over as such, as the map of its parameters or encoded
(`CoseKey.Form`). If its parameters come back from the wire as they are, every form of it is read as
the same key (`CoseKey.decode_of_form`), so that a reader of public keys has to be compared with the
parameters only: the reader of a raw curve finds the bytes of the key in them
(`PublicKey.holdsRaw_of_parameters?`), and the reader of points both coordinates, because a number
below the prime fits into the bytes of a coordinate (`PublicKey.holdsPoint_of_parameters?`).

From these follows that the codecs of public keys are inverses of each other
(`PublicKey.decode_inverts_encode`).
-/

set_option autoImplicit false

namespace DeviceTrust

/-! ## The forms of a structured key -/

namespace CoseKey

variable {k : CoseKey} {v : Value}

/-- **The forms in which a structured key is handed over**: as such, as the map of its parameters,
or encoded. -/
inductive Form (k : CoseKey) : Value → Prop
  | key : Form k k.toValue
  | map (flavour : MapFlavour) : Form k (.map flavour k.parameters)
  | encoded {b : Bytes} {v : Value} (h : k.encode = .ok b) (hv : v.byteString? = some b) : Form k v

/-- **Every form of a key is read as the key**, if it comes back from the wire as it is. -/
theorem decode_of_form {depth : Nat} (hk : k.Portable depth) (hback : k.asRead = k)
    (hd : depth < Cbor.depthLimit) (hlength : ∀ b, k.encode = .ok b → b.length < 2 ^ 64)
    (h : k.Form v) : decode v = .ok k := by
  have hnew : new k.parameters = k := new_eq_of_normal hk.normal
  rw [decode_eq_ok_iff]
  cases h with
  | key => exact .key _
  | map flavour =>
      have hholds : HoldsKey (.map flavour k.parameters) (new k.parameters) := .map flavour _
      rwa [hnew] at hholds
  | encoded hb hv =>
      have hmap := hk.encodesMap hd hb (hlength _ hb)
      rw [hback] at hmap
      have hholds : HoldsKey v (new k.parameters) := .encoded hv hmap
      rwa [hnew] at hholds

end CoseKey

namespace PublicKey

variable {es : Entries}

theorem decode_of_parameters? {k : PublicKey} (h : k.parameters? = some es) {v : Value}
    (hv : CoseKey.Form ⟨es⟩ v) : CoseKey.decode v = .ok ⟨es⟩ := by
  obtain ⟨hportable, hback⟩ := portable_of_parameters? h 0
  refine CoseKey.decode_of_form hportable hback (by decide) (fun b hb => ?_) hv
  have hshort := length_encode_of_parameters? h hb
  omega

/-! ## What the readers find -/

/-- **A raw curve's reader finds the bytes of a key** among its parameters, and the algorithm of the
curve. -/
theorem holdsRaw_of_parameters? {c : RawCurve} {raw : RawKey}
    (h : (c.publicKey raw).parameters? = some es) :
    CoseKey.HoldsRaw ⟨es⟩ c raw ∧
      CoseKey.find? ⟨es⟩ (.int KeyLabel.alg.number) = some (.int c.curve.algorithm.number) := by
  cases c with
  | x25519 | ed25519 =>
      cases h
      refine ⟨⟨?_, ?_, ?_⟩, ?_⟩
      · simp [keyParameters, KeyLabel.number, Value.int?]
      · simp [keyParameters, KeyLabel.number, Value.int?, RawCurve.curve]
      · simp [keyParameters, KeyLabel.number, Value.byteString?]
      · simp [keyParameters, KeyLabel.number, RawCurve.curve]

/-- A coordinate below the prime survives the way through its bytes, leading zeros included. -/
theorem toNatBE_coordinate {n : Nat} (hn : n < DeviceTrust.p256.prime) :
    Bytes.toNatBE (Bytes.ofNatBE Parameters.coordinateLength n) % DeviceTrust.p256.prime = n := by
  have hprime : DeviceTrust.p256.prime < 256 ^ Parameters.coordinateLength := by decide
  rw [Bytes.toNatBE_ofNatBE (Nat.lt_trans hn hprime), Nat.mod_eq_of_lt hn]

/-- **The reader of points finds both coordinates of a point** among its parameters, and the
algorithm of the curve. -/
theorem holdsPoint_of_parameters? {x y : Nat} (hpoint : DeviceTrust.p256.onCurve x y = true)
    (h : (PublicKey.p256 x y).parameters? = some es) :
    CoseKey.HoldsPoint ⟨es⟩ x y ∧
      CoseKey.find? ⟨es⟩ (.int KeyLabel.alg.number) = some (.int Algorithm.es256.number) := by
  have hbounds : x < DeviceTrust.p256.prime ∧ y < DeviceTrust.p256.prime := by
    simp only [Weierstrass.onCurve, Bool.and_eq_true, decide_eq_true_eq] at hpoint
    exact hpoint.1
  cases h
  refine ⟨⟨?_, ?_, ⟨_, ?_, toNatBE_coordinate hbounds.1⟩, ⟨_, ?_, toNatBE_coordinate hbounds.2⟩,
    hpoint⟩, ?_⟩
  · simp [keyParameters, KeyLabel.number, Value.int?]
  · simp [keyParameters, KeyLabel.number, Value.int?]
  · simp [keyParameters, KeyLabel.number, Value.byteString?]
  · simp [keyParameters, KeyLabel.number, Value.byteString?]
  · simp [keyParameters, KeyLabel.number, Curve.algorithm]

/-- **The reader of the key's own curve gives the key.** -/
theorem toRawKey_of_parameters? {p : Platform} {c : RawCurve} {raw : RawKey}
    (hp : c.primitive ∉ p.missing) (h : (c.publicKey raw).parameters? = some es) :
    CoseKey.toRawKey p c ⟨es⟩ = .ok (c.publicKey raw) := by
  obtain ⟨hholds, halg⟩ := holdsRaw_of_parameters? h
  exact CoseKey.toRawKey_eq_ok_iff.2 ⟨hp, CoseKey.int?_get_of_find? halg, raw, hholds, rfl⟩

/-- **The reader of points gives a point of the curve.** -/
theorem toPoint_of_parameters? {p : Platform} {x y : Nat} (hp : .p256Public ∉ p.missing)
    (hpoint : DeviceTrust.p256.onCurve x y = true) (h : (PublicKey.p256 x y).parameters? = some es) :
    CoseKey.toPoint p ⟨es⟩ = .ok (.p256 x y) := by
  obtain ⟨hholds, halg⟩ := holdsPoint_of_parameters? hpoint h
  exact CoseKey.toPoint_eq_ok_iff.2 ⟨hp, CoseKey.int?_get_of_find? halg, x, y, hholds, rfl⟩

/-- **The reader of the other raw curve names the curve.** -/
theorem toRawKey_of_parameters?_ne {p : Platform} {c c' : RawCurve} {raw : RawKey}
    (hne : c ≠ c') (h : (c.publicKey raw).parameters? = some es) :
    CoseKey.toRawKey p c' ⟨es⟩
      = .error (.parameterValue .curve c'.curve.number c.curve.number) := by
  obtain ⟨hholds, halg⟩ := holdsRaw_of_parameters? h
  have hnumber : (CoseKey.get ⟨es⟩ .alg).int? = some c.curve.algorithm.number :=
    CoseKey.int?_get_of_find? halg
  have hcurve : c.curve.number ≠ c'.curve.number := by
    cases c <;> cases c' <;> first | decide | exact absurd rfl hne
  exact CoseKey.toRawKey_of_curve_ne hholds.keyType hholds.curve hnumber hcurve

/-- **The reader of a raw curve names the type of a point**, whether it is on its curve or not. -/
theorem toRawKey_of_parameters?_p256 {p : Platform} {c : RawCurve} {x y : Nat}
    (h : (p256 x y).parameters? = some es) :
    CoseKey.toRawKey p c ⟨es⟩
      = .error (.parameterValue .keyType KeyType.okp.number KeyType.ec2.number) := by
  have hkty : (CoseKey.get ⟨es⟩ .kty).int? = some KeyType.ec2.number := by
    cases h
    simp [keyParameters, KeyLabel.number, Value.int?]
  have hcrv : (CoseKey.get ⟨es⟩ .crv).int? = some Curve.p256.number := by
    cases h
    simp [keyParameters, KeyLabel.number, Value.int?]
  have halg : (CoseKey.get ⟨es⟩ .alg).int? = some Curve.p256.algorithm.number := by
    cases h
    simp [keyParameters, KeyLabel.number, Value.int?]
  exact CoseKey.toRawKey_of_keyType_ne hkty hcrv halg (by decide)

/-! ## Inverses -/

variable {p q : Platform}

theorem exists_parameters?_publicKey (c : RawCurve) (raw : RawKey) :
    ∃ es, (c.publicKey raw).parameters? = some es := by
  cases c with
  | x25519 | ed25519 => exact ⟨_, rfl⟩

theorem ofRawKey_of_parameters? (hp : .sha256 ∉ p.missing) {c : RawCurve} {raw : RawKey}
    (h : (c.publicKey raw).parameters? = some es) :
    CoseKey.ofRawKey p c (.publicKey (c.publicKey raw)) = .ok ⟨es⟩ := by
  rw [← CoseKey.ofPublicKey_eq hp h]
  cases c with
  | x25519 | ed25519 => rfl

/-- **Reading undoes writing on a raw curve**, in every form of what is written. -/
theorem decodeRaw_ofRawKey (hp : .sha256 ∉ p.missing) {c : RawCurve}
    (hq : c.primitive ∉ q.missing) (raw : RawKey) :
    ∃ k b, CoseKey.ofRawKey p c (.publicKey (c.publicKey raw)) = .ok k ∧ k.encode = .ok b ∧
      ∀ v, k.Form v → decodeRaw q c v = .ok (c.publicKey raw) := by
  obtain ⟨es, hes⟩ := exists_parameters?_publicKey c raw
  obtain ⟨b, hb⟩ := (portable_of_parameters? hes 0).1.exists_encode
  refine ⟨⟨es⟩, b, ofRawKey_of_parameters? hp hes, hb, fun v hv => ?_⟩
  exact bind_eq_ok.2 ⟨⟨es⟩, decode_of_parameters? hes hv, toRawKey_of_parameters? hq hes⟩

/-- **Reading undoes writing on P-256**, in every form of what is written. -/
theorem decodePoint_ofPoint (hp : .sha256 ∉ p.missing) (hq : .p256Public ∉ q.missing) {x y : Nat}
    (hpoint : DeviceTrust.p256.onCurve x y = true) :
    ∃ k b, CoseKey.ofPoint p (.publicKey (.p256 x y)) = .ok k ∧ k.encode = .ok b ∧
      ∀ v, k.Form v → decodePoint q v = .ok (.p256 x y) := by
  obtain ⟨es, hes⟩ : ∃ es, (PublicKey.p256 x y).parameters? = some es := ⟨_, rfl⟩
  have hwrite : CoseKey.ofPoint p (.publicKey (.p256 x y)) = .ok ⟨es⟩ :=
    CoseKey.ofPublicKey_eq hp hes
  obtain ⟨b, hb⟩ := (portable_of_parameters? hes 0).1.exists_encode
  refine ⟨⟨es⟩, b, hwrite, hb, fun v hv => ?_⟩
  exact bind_eq_ok.2 ⟨⟨es⟩, decode_of_parameters? hes hv, toPoint_of_parameters? hq hpoint hes⟩

theorem toRaw_publicKey (c : RawCurve) (raw : RawKey) :
    Value.toRaw (.publicKey (c.publicKey raw)) = .ok raw.bytes := by
  cases c with
  | x25519 | ed25519 => rfl

/-- **A byte string of either sort is a key on a raw curve** exactly if there are thirty-two
bytes. -/
theorem ofRaw_eq_ok_iff {c : RawCurve} (hq : c.primitive ∉ q.missing) {v : Value} {b : Bytes}
    (hv : v.byteString? = some b) {k : PublicKey} :
    ofRaw q c v = .ok k ↔ ∃ raw : RawKey, raw.bytes = b ∧ c.publicKey raw = k := by
  have hbytes : ofRaw q c (.bytes b) = .ok k ↔ _ := ofRaw_bytes_eq_ok_iff
  rw [and_iff_right hq] at hbytes
  cases v with
  | bytes _ | buffer _ =>
      cases hv
      exact hbytes
  | _ => cases hv

/-- **The codecs of public keys are exact inverses.** Write any key on a raw curve, or any point on
P-256, as a structured key: this succeeds and has an encoding, and the reader of the same curve
gives the key that was written, from the structured key, from the map of its parameters and from its
encoding. The raw bytes of a key make the key again, and the key that any thirty-two bytes make has
these as its raw bytes. The platform of the writer has to have the digest, and that of the reader
the curve. -/
theorem decode_inverts_encode (p q : Platform) (hp : .sha256 ∉ p.missing)
    (hraw : ∀ c : RawCurve, c.primitive ∉ q.missing) (hpoint : .p256Public ∉ q.missing) :
    (∀ (c : RawCurve) (raw : RawKey), ∃ k b,
      CoseKey.ofRawKey p c (.publicKey (c.publicKey raw)) = .ok k ∧ k.encode = .ok b ∧
      ∀ v, k.Form v → decodeRaw q c v = .ok (c.publicKey raw)) ∧
    (∀ x y, DeviceTrust.p256.onCurve x y = true → ∃ k b,
      CoseKey.ofPoint p (.publicKey (.p256 x y)) = .ok k ∧ k.encode = .ok b ∧
      ∀ v, k.Form v → decodePoint q v = .ok (.p256 x y)) ∧
    (∀ (c : RawCurve) (raw : RawKey), ∃ b,
      Value.toRaw (.publicKey (c.publicKey raw)) = .ok b ∧ b.length = 32 ∧
      ∀ v, v.byteString? = some b → ofRaw q c v = .ok (c.publicKey raw)) ∧
    (∀ (c : RawCurve) (v : Value) (b : Bytes), v.byteString? = some b → b.length = 32 →
      ∃ k, ofRaw q c v = .ok k ∧ Value.toRaw (.publicKey k) = .ok b) := by
  refine ⟨fun c raw => decodeRaw_ofRawKey hp (hraw c) raw,
    fun x y h => decodePoint_ofPoint hp hpoint h, fun c raw => ?_, fun c v b hv hlength => ?_⟩
  · refine ⟨raw.bytes, toRaw_publicKey c raw, raw.length_eq, fun v hv => ?_⟩
    exact (ofRaw_eq_ok_iff (hraw c) hv).2 ⟨raw, rfl, rfl⟩
  · refine ⟨c.publicKey ⟨b, hlength⟩, ?_, toRaw_publicKey c _⟩
    exact (ofRaw_eq_ok_iff (hraw c) hv).2 ⟨⟨b, hlength⟩, rfl, rfl⟩

/-- The point with the coordinate zero, written with leading zeros only, and the other coordinate in
full, and the X25519 key of thirty-two zeros: each comes back from its encoding. -/
theorem decode_inverts_encode_zeros :
    let y := 0x99b7a386f1d07c29dbcc42a27b5f9449abe3d50de25178e8d7407a95e8b06c0b
    let raw : RawKey := ⟨Bytes.zeros 32, rfl⟩
    (∃ k b, CoseKey.ofPoint {} (.publicKey (.p256 0 y)) = .ok k ∧ k.encode = .ok b ∧
      decodePoint {} (.bytes b) = .ok (.p256 0 y)) ∧
    (∃ k b, CoseKey.ofRawKey {} .x25519 (.publicKey (.x25519 raw)) = .ok k ∧ k.encode = .ok b ∧
      decodeRaw {} .x25519 (.bytes b) = .ok (.x25519 raw)) ∧
    ∃ k, ofRaw {} .x25519 (.bytes (Bytes.zeros 32)) = .ok k ∧
      Value.toRaw (.publicKey k) = .ok (Bytes.zeros 32) := by
  intro y raw
  have hcurve : DeviceTrust.p256.onCurve 0 y = true := by decide +kernel
  obtain ⟨hraw, hpoint, -, hbytes⟩ := decode_inverts_encode {} {} List.not_mem_nil
    (fun _ => List.not_mem_nil) List.not_mem_nil
  obtain ⟨k, b, hk, hb, hread⟩ := hpoint 0 y hcurve
  obtain ⟨k', b', hk', hb', hread'⟩ := hraw .x25519 raw
  exact ⟨⟨k, b, hk, hb, hread _ (.encoded hb rfl)⟩, ⟨k', b', hk', hb', hread' _ (.encoded hb' rfl)⟩,
    hbytes .x25519 (.bytes (Bytes.zeros 32)) (Bytes.zeros 32) rfl rfl⟩

end PublicKey

end DeviceTrust
