import DeviceTrust.Key.Codec
import DeviceTrust.Proofs.Outcome

/-!
# What a strict reader accepts

A structured key is read field by field. The fields that a key must have are collected in
`HoldsRaw` for the curves whose keys are raw bytes, and in `HoldsPoint` for P-256; the algorithm is
kept apart, because a verification key may leave it out. The readers accept exactly these keys
(`toRawKey_eq_ok_iff`, `toPoint_eq_ok_iff`), and refuse any other with an error of the library.

A reader looks at nothing but the parameters under the registered labels, and sees no more of them
than their types, integers and bytes (`Value.seen`, `toRawKey_congr`, `toPoint_congr`).
-/

set_option autoImplicit false

namespace DeviceTrust

/-! ## Primitives -/

theorem Platform.require_eq_ok_iff {p : Platform} {primitive : Primitive} :
    p.require primitive = .ok () ↔ primitive ∉ p.missing := by
  unfold require
  split <;> simp_all

theorem Platform.require_of_missing {p : Platform} {primitive : Primitive}
    (h : primitive ∈ p.missing) : p.require primitive = .error (.missing primitive) :=
  if_pos (List.contains_iff_mem.2 h)

theorem Platform.require_failsOnly (p : Platform) (primitive : Primitive) :
    FailsOnly IsReported (p.require primitive) := by
  unfold Platform.require
  split
  · exact .error rfl
  · exact .ok _

namespace PublicKey

theorem ofRaw_bytes_eq_ok_iff {p : Platform} {c : RawCurve} {b : Bytes} {pub : PublicKey} :
    ofRaw p c (.bytes b) = .ok pub ↔
      c.primitive ∉ p.missing ∧ ∃ raw : RawKey, raw.bytes = b ∧ c.publicKey raw = pub := by
  constructor
  · intro h
    obtain ⟨_, hrequire, h⟩ := bind_eq_ok.1 h
    refine ⟨Platform.require_eq_ok_iff.1 hrequire, ?_⟩
    split at h
    · rename_i hlength
      cases h
      exact ⟨⟨b, hlength⟩, rfl, rfl⟩
    · cases h
  · rintro ⟨hc, raw, rfl, rfl⟩
    refine bind_eq_ok.2 ⟨(), Platform.require_eq_ok_iff.2 hc, ?_⟩
    exact dif_pos raw.length_eq

theorem ofRaw_bytes_failsOnly (p : Platform) (c : RawCurve) (b : Bytes) :
    FailsOnly IsReported (ofRaw p c (.bytes b)) := by
  refine (p.require_failsOnly c.primitive).bind fun _ _ => ?_
  split
  · exact .ok _
  · exact .error rfl

end PublicKey

/-! ## What can be seen of a parameter -/

/-- **What a strict reader sees of a value**: its type, and the integer or the bytes that it is. -/
def Value.seen (v : Value) : Kind × Option Int × Option Bytes := (v.kindOf, v.int?, v.byteString?)

namespace CoseKey

variable {p : Platform} {k k' : CoseKey}

/-! ## Field checks -/

theorem int?_get_of_find? {label : KeyLabel} {n : Int}
    (h : k.find? (.int label.number) = some (.int n)) : (k.get label).int? = some n := by
  rw [get, h]
  rfl

theorem requireInteger_eq_ok_iff {label : KeyLabel} {n : Int} :
    k.requireInteger label = .ok n ↔ (k.get label).int? = some n := by
  unfold requireInteger
  split <;> simp [*]

theorem requireInteger_failsOnly (k : CoseKey) (label : KeyLabel) :
    FailsOnly IsReported (k.requireInteger label) := by
  unfold requireInteger
  split
  · exact .ok _
  · exact .error rfl

theorem requireInteger_congr {label : KeyLabel} (h : (k.get label).seen = (k'.get label).seen) :
    k.requireInteger label = k'.requireInteger label := by
  simp only [Value.seen, Prod.mk.injEq] at h
  simp only [requireInteger, h]

theorem requireBytes_eq_ok_iff {label : KeyLabel} {b : Bytes} :
    k.requireBytes label = .ok b ↔ (k.get label).byteString? = some b := by
  unfold requireBytes
  split <;> simp [*]

theorem requireBytes_failsOnly (k : CoseKey) (label : KeyLabel) :
    FailsOnly IsReported (k.requireBytes label) := by
  unfold requireBytes
  split
  · exact .ok _
  · exact .error rfl

theorem requireBytes_congr {label : KeyLabel} (h : (k.get label).seen = (k'.get label).seen) :
    k.requireBytes label = k'.requireBytes label := by
  simp only [Value.seen, Prod.mk.injEq] at h
  simp only [requireBytes, h]

theorem expect_eq_ok_iff (mismatch : KeyMismatch) {expected : Int} :
    k.expect mismatch expected = .ok () ↔ (k.get mismatch.label).int? = some expected := by
  unfold expect
  rw [bind_eq_ok]
  constructor
  · rintro ⟨actual, hactual, h⟩
    split at h
    · rename_i heq
      rw [← heq]
      exact requireInteger_eq_ok_iff.1 hactual
    · cases h
  · intro h
    exact ⟨expected, requireInteger_eq_ok_iff.2 h, if_pos rfl⟩

theorem expect_eq_error (mismatch : KeyMismatch) {n expected : Int}
    (h : (k.get mismatch.label).int? = some n) (hne : n ≠ expected) :
    k.expect mismatch expected = .error (.parameterValue mismatch expected n) := by
  unfold expect
  rw [requireInteger_eq_ok_iff.2 h]
  exact if_neg hne

theorem expect_failsOnly (k : CoseKey) (mismatch : KeyMismatch) (expected : Int) :
    FailsOnly IsReported (k.expect mismatch expected) := by
  refine (k.requireInteger_failsOnly mismatch.label).bind fun actual _ => ?_
  split
  · exact .ok _
  · exact .error rfl

theorem expect_congr (mismatch : KeyMismatch)
    (h : (k.get mismatch.label).seen = (k'.get mismatch.label).seen) (expected : Int) :
    k.expect mismatch expected = k'.expect mismatch expected := by
  rw [expect, expect, requireInteger_congr h]

/-! ## Raw bytes -/

/-- **The fields of a key on a raw curve**, all but the algorithm. -/
structure HoldsRaw (k : CoseKey) (c : RawCurve) (raw : RawKey) : Prop where
  keyType : (k.get .kty).int? = some KeyType.okp.number
  curve : (k.get .crv).int? = some c.curve.number
  xBytes : (k.get .x).byteString? = some raw.bytes

theorem holdsRaw_congr {c : RawCurve} {raw : RawKey}
    (h : ∀ label, label ≠ .alg → label ≠ .kid → k.get label = k'.get label) :
    k.HoldsRaw c raw ↔ k'.HoldsRaw c raw := by
  have hkty := h .kty (by decide) (by decide)
  have hcrv := h .crv (by decide) (by decide)
  have hx := h .x (by decide) (by decide)
  constructor
  · rintro ⟨h₁, h₂, h₃⟩
    exact ⟨hkty ▸ h₁, hcrv ▸ h₂, hx ▸ h₃⟩
  · rintro ⟨h₁, h₂, h₃⟩
    exact ⟨hkty ▸ h₁, hcrv ▸ h₂, hx ▸ h₃⟩

/-- **The reader of raw curves**: the key names the curve's algorithm and holds a key on it. -/
theorem toRawKey_eq_ok_iff {c : RawCurve} {pub : PublicKey} :
    k.toRawKey p c = .ok pub ↔
      c.primitive ∉ p.missing ∧ (k.get .alg).int? = some c.curve.algorithm.number ∧
        ∃ raw, k.HoldsRaw c raw ∧ pub = c.publicKey raw := by
  constructor
  · intro h
    obtain ⟨_, -, h⟩ := bind_eq_ok.1 h
    obtain ⟨_, -, h⟩ := bind_eq_ok.1 h
    obtain ⟨_, -, h⟩ := bind_eq_ok.1 h
    obtain ⟨_, hkty, h⟩ := bind_eq_ok.1 h
    obtain ⟨_, hcrv, h⟩ := bind_eq_ok.1 h
    obtain ⟨_, halg, h⟩ := bind_eq_ok.1 h
    obtain ⟨x, hx, h⟩ := bind_eq_ok.1 h
    obtain ⟨hc, raw, rfl, rfl⟩ := PublicKey.ofRaw_bytes_eq_ok_iff.1 h
    exact ⟨hc, (expect_eq_ok_iff _).1 halg, raw,
      ⟨(expect_eq_ok_iff _).1 hkty, (expect_eq_ok_iff _).1 hcrv, requireBytes_eq_ok_iff.1 hx⟩, rfl⟩
  · rintro ⟨hc, halg, raw, ⟨hkty, hcrv, hx⟩, rfl⟩
    unfold toRawKey
    rw [requireInteger_eq_ok_iff.2 hcrv, requireInteger_eq_ok_iff.2 hkty,
      requireInteger_eq_ok_iff.2 halg, (expect_eq_ok_iff .keyType).2 hkty,
      (expect_eq_ok_iff .curve).2 hcrv,
      (expect_eq_ok_iff .algorithmOfCurve).2 halg, requireBytes_eq_ok_iff.2 hx]
    exact PublicKey.ofRaw_bytes_eq_ok_iff.2 ⟨hc, raw, rfl, rfl⟩

/-- **The reader of a raw curve compares the type of key first**, once all three are numbers. -/
theorem toRawKey_of_keyType_ne {c : RawCurve} {kty crv alg : Int}
    (hkty : (k.get .kty).int? = some kty) (hcrv : (k.get .crv).int? = some crv)
    (halg : (k.get .alg).int? = some alg) (hne : kty ≠ KeyType.okp.number) :
    k.toRawKey p c = .error (.parameterValue .keyType KeyType.okp.number kty) := by
  unfold toRawKey
  rw [requireInteger_eq_ok_iff.2 hcrv, requireInteger_eq_ok_iff.2 hkty,
    requireInteger_eq_ok_iff.2 halg, expect_eq_error .keyType hkty hne]
  rfl

/-- **Then it compares the curve.** -/
theorem toRawKey_of_curve_ne {c : RawCurve} {crv alg : Int}
    (hkty : (k.get .kty).int? = some KeyType.okp.number) (hcrv : (k.get .crv).int? = some crv)
    (halg : (k.get .alg).int? = some alg) (hne : crv ≠ c.curve.number) :
    k.toRawKey p c = .error (.parameterValue .curve c.curve.number crv) := by
  unfold toRawKey
  rw [requireInteger_eq_ok_iff.2 hcrv, requireInteger_eq_ok_iff.2 hkty,
    requireInteger_eq_ok_iff.2 halg, (expect_eq_ok_iff .keyType).2 hkty,
    expect_eq_error .curve hcrv hne]
  rfl

theorem toRawKey_failsOnly (p : Platform) (c : RawCurve) (k : CoseKey) :
    FailsOnly IsReported (k.toRawKey p c) := by
  refine (k.requireInteger_failsOnly _).bind fun _ _ => ?_
  refine (k.requireInteger_failsOnly _).bind fun _ _ => ?_
  refine (k.requireInteger_failsOnly _).bind fun _ _ => ?_
  refine (k.expect_failsOnly _ _).bind fun _ _ => ?_
  refine (k.expect_failsOnly _ _).bind fun _ _ => ?_
  refine (k.expect_failsOnly _ _).bind fun _ _ => ?_
  refine (k.requireBytes_failsOnly _).bind fun x _ => ?_
  exact PublicKey.ofRaw_bytes_failsOnly p c x

/-- **The reader looks at the registered labels only**, not at that of the secret part, and there at
what can be seen. -/
theorem toRawKey_congr (h : ∀ label, label ≠ .d → (k.get label).seen = (k'.get label).seen)
    (c : RawCurve) : k.toRawKey p c = k'.toRawKey p c := by
  have hkty := h .kty (by decide)
  have hcrv := h .crv (by decide)
  have halg := h .alg (by decide)
  have hx := h .x (by decide)
  simp only [toRawKey, requireInteger_congr hkty, requireInteger_congr hcrv,
    requireInteger_congr halg, expect_congr .keyType hkty, expect_congr .curve hcrv,
    expect_congr .algorithmOfCurve halg, requireBytes_congr hx]

/-! ## Points -/

/-- **The fields of a key on P-256**, all but the algorithm: two byte strings that are, modulo the
prime of the field, the coordinates of a point. -/
structure HoldsPoint (k : CoseKey) (x y : Nat) : Prop where
  keyType : (k.get .kty).int? = some KeyType.ec2.number
  curve : (k.get .crv).int? = some Curve.p256.number
  xBytes : ∃ b, (k.get .x).byteString? = some b ∧ Bytes.toNatBE b % p256.prime = x
  yBytes : ∃ b, (k.get .y).byteString? = some b ∧ Bytes.toNatBE b % p256.prime = y
  onCurve : p256.onCurve x y = true

theorem holdsPoint_congr {x y : Nat}
    (h : ∀ label, label ≠ .alg → label ≠ .kid → k.get label = k'.get label) :
    k.HoldsPoint x y ↔ k'.HoldsPoint x y := by
  have hkty := h .kty (by decide) (by decide)
  have hcrv := h .crv (by decide) (by decide)
  have hx := h .x (by decide) (by decide)
  have hy := h .y (by decide) (by decide)
  constructor
  · rintro ⟨h₁, h₂, h₃, h₄, h₅⟩
    exact ⟨hkty ▸ h₁, hcrv ▸ h₂, hx ▸ h₃, hy ▸ h₄, h₅⟩
  · rintro ⟨h₁, h₂, h₃, h₄, h₅⟩
    exact ⟨hkty ▸ h₁, hcrv ▸ h₂, hx ▸ h₃, hy ▸ h₄, h₅⟩

/-- **The reader of points**: the key names the curve's algorithm and holds a point on it. -/
theorem toPoint_eq_ok_iff {pub : PublicKey} :
    k.toPoint p = .ok pub ↔
      .p256Public ∉ p.missing ∧ (k.get .alg).int? = some Algorithm.es256.number ∧
        ∃ x y, k.HoldsPoint x y ∧ pub = .p256 x y := by
  constructor
  · intro h
    obtain ⟨_, hkty, h⟩ := bind_eq_ok.1 h
    obtain ⟨_, halg, h⟩ := bind_eq_ok.1 h
    obtain ⟨_, hcrv, h⟩ := bind_eq_ok.1 h
    obtain ⟨x, hx, h⟩ := bind_eq_ok.1 h
    obtain ⟨y, hy, h⟩ := bind_eq_ok.1 h
    obtain ⟨_, hrequire, h⟩ := bind_eq_ok.1 h
    dsimp only at h
    split at h
    · rename_i hcurve
      cases h
      exact ⟨Platform.require_eq_ok_iff.1 hrequire, (expect_eq_ok_iff _).1 halg, _, _,
        ⟨(expect_eq_ok_iff _).1 hkty, (expect_eq_ok_iff _).1 hcrv, ⟨x, requireBytes_eq_ok_iff.1 hx, rfl⟩,
          ⟨y, requireBytes_eq_ok_iff.1 hy, rfl⟩, hcurve⟩, rfl⟩
    · cases h
  · rintro ⟨hp, halg, _, _, ⟨hkty, hcrv, ⟨x, hx, rfl⟩, ⟨y, hy, rfl⟩, hcurve⟩, rfl⟩
    unfold toPoint
    rw [(expect_eq_ok_iff .keyType).2 hkty,
      (expect_eq_ok_iff .algorithm).2 halg,
      (expect_eq_ok_iff .curve).2 hcrv, requireBytes_eq_ok_iff.2 hx,
      requireBytes_eq_ok_iff.2 hy, Platform.require_eq_ok_iff.2 hp]
    exact if_pos hcurve

theorem toPoint_failsOnly (p : Platform) (k : CoseKey) :
    FailsOnly IsReported (k.toPoint p) := by
  refine (k.expect_failsOnly _ _).bind fun _ _ => ?_
  refine (k.expect_failsOnly _ _).bind fun _ _ => ?_
  refine (k.expect_failsOnly _ _).bind fun _ _ => ?_
  refine (k.requireBytes_failsOnly _).bind fun x _ => ?_
  refine (k.requireBytes_failsOnly _).bind fun y _ => ?_
  refine (p.require_failsOnly _).bind fun _ _ => ?_
  dsimp only
  split
  · exact .ok _
  · exact .error rfl

/-- **The reader looks at the registered labels only**, not at that of the secret part, and there at
what can be seen. -/
theorem toPoint_congr (h : ∀ label, label ≠ .d → (k.get label).seen = (k'.get label).seen) :
    k.toPoint p = k'.toPoint p := by
  have hkty := h .kty (by decide)
  have hcrv := h .crv (by decide)
  have halg := h .alg (by decide)
  have hx := h .x (by decide)
  have hy := h .y (by decide)
  simp only [toPoint, expect_congr .keyType hkty, expect_congr .algorithm halg,
    expect_congr .curve hcrv, requireBytes_congr hx, requireBytes_congr hy]

end CoseKey

end DeviceTrust
