import DeviceTrust.Bytes.Lemmas
import DeviceTrust.Proofs.Certificate.Pinning
import DeviceTrust.Proofs.Key.Checks

/-!
# Coordinates in full

A key that a reader takes can be written again. On a raw curve this gives back every field of the key,
because only thirty-two bytes are read as a key (`PublicKey.written_of_toRawKey`). On P-256 the
coordinates are read as numbers, whatever the number of their bytes, and count modulo the prime of the
field, but they are written in thirty-two bytes; so `x` and `y` come back exactly if they were written
in full (`IsCoordinate`, `PublicKey.written_of_toPoint`).

Pinning compares the bytes of `x`, those of a public key in its written form
(`Certificate.checkExpected_publicKey_iff`). So where a point is expected, a certificate of this point
passes if `x` is written in full there, and only then.
-/

set_option autoImplicit false

namespace DeviceTrust

/-! ## Bytes of coordinates -/

/-- **A coordinate of P-256, written in full**: as many bytes as a coordinate has, for a number below
the prime of the field. -/
def IsCoordinate (b : Bytes) : Prop :=
  b.length = Parameters.coordinateLength ∧ Bytes.toNatBE b < p256.prime

instance (b : Bytes) : Decidable (IsCoordinate b) := inferInstanceAs (Decidable (_ ∧ _))

theorem coordinateOf_lt (b : Bytes) : coordinateOf b < p256.prime := Nat.mod_lt _ (by decide)

theorem isCoordinate_ofNatBE {n : Nat} (hn : n < p256.prime) :
    IsCoordinate (Bytes.ofNatBE Parameters.coordinateLength n) := by
  have hprime : p256.prime < 256 ^ Parameters.coordinateLength := by decide
  refine ⟨Bytes.length_ofNatBE _ _, ?_⟩
  rwa [Bytes.toNatBE_ofNatBE (Nat.lt_trans hn hprime)]

/-- **Writing undoes reading for coordinates in full**, and for no other bytes. -/
theorem ofNatBE_coordinateOf_eq_iff {b : Bytes} :
    Bytes.ofNatBE Parameters.coordinateLength (coordinateOf b) = b ↔ IsCoordinate b := by
  constructor
  · intro h
    rw [← h]
    exact isCoordinate_ofNatBE (coordinateOf_lt b)
  · rintro ⟨hlength, hlt⟩
    rw [coordinateOf, Nat.mod_eq_of_lt hlt, ← hlength]
    exact Bytes.ofNatBE_toNatBE b

/-- **A coordinate has one spelling in full.** -/
theorem IsCoordinate.eq_of_coordinateOf_eq {a b : Bytes} (ha : IsCoordinate a) (hb : IsCoordinate b)
    (h : coordinateOf a = coordinateOf b) : a = b := by
  rw [← ofNatBE_coordinateOf_eq_iff.2 ha, h, ofNatBE_coordinateOf_eq_iff.2 hb]

theorem Bytes.toNatLE_append_zeros (b : Bytes) (n : Nat) : toNatLE (b ++ zeros n) = toNatLE b := by
  induction b with
  | nil =>
      induction n with
      | zero => rfl
      | succ n ih =>
          show 0 + 256 * toNatLE ([] ++ zeros n) = 0
          rw [ih]
          rfl
  | cons x r ih => rw [List.cons_append, toNatLE, toNatLE, ih]

/-- **Zeros in front of a coordinate do not count.** -/
theorem coordinateOf_zeros_append (n : Nat) (b : Bytes) :
    coordinateOf (Bytes.zeros n ++ b) = coordinateOf b := by
  have hzeros : (Bytes.zeros n).reverse = Bytes.zeros n := List.reverse_replicate
  rw [coordinateOf, coordinateOf, Bytes.toNatBE, Bytes.toNatBE, List.reverse_append, hzeros,
    Bytes.toNatLE_append_zeros]

theorem IsCoordinate.not_zeros_append {b : Bytes} (hb : IsCoordinate b) {n : Nat} (hn : 0 < n) :
    ¬ IsCoordinate (Bytes.zeros n ++ b) := by
  rintro ⟨hlength, -⟩
  rw [List.length_append, hb.1, Bytes.zeros, List.length_replicate] at hlength
  omega

/-! ## What is seen of a field -/

namespace Value

variable {v w : Value}

theorem seen_of_int? {n : Int} (h : v.int? = some n) : v.seen = (.integer, some n, none) := by
  cases v with
  | int _ | registered _ =>
      cases h
      rfl
  | _ => cases h

theorem seen_of_byteString? {b : Bytes} (h : v.byteString? = some b) :
    v.seen = (.byteString, none, some b) := by
  cases v with
  | bytes _ | buffer _ =>
      cases h
      rfl
  | _ => cases h

theorem seen_eq_of_int? {n : Int} (hv : v.int? = some n) (hw : w.int? = some n) :
    v.seen = w.seen := by
  rw [seen_of_int? hv, seen_of_int? hw]

theorem seen_eq_iff_of_byteString? {a b : Bytes} (hv : v.byteString? = some a)
    (hw : w.byteString? = some b) : v.seen = w.seen ↔ a = b := by
  rw [seen_of_byteString? hv, seen_of_byteString? hw]
  simp

end Value

/-! ## Keys that are written again -/

theorem RawCurve.fields_curve (c : RawCurve) : c.curve.fields = [.kty, .alg, .crv, .x] := by
  cases c with
  | x25519 | ed25519 => rfl

namespace PublicKey

variable {p q : Platform} {k : CoseKey} {pub : PublicKey}

/-- **A key on a raw curve is written as it was read**: all fields of the curve come back. -/
theorem written_of_toRawKey {c : RawCurve} (hp : .sha256 ∉ p.missing)
    (h : k.toRawKey q c = .ok pub) :
    ∃ es, pub.parameters? = some es ∧ CoseKey.ofRawKey p c (.publicKey pub) = .ok ⟨es⟩ ∧
      CoseKey.toRawKey q c ⟨es⟩ = .ok pub ∧
      ∀ label ∈ c.curve.fields, (CoseKey.get ⟨es⟩ label).seen = (k.get label).seen := by
  obtain ⟨hq, halg, raw, hholds, rfl⟩ := CoseKey.toRawKey_eq_ok_iff.1 h
  obtain ⟨es, hes⟩ := exists_parameters?_publicKey c raw
  obtain ⟨hholds', halg'⟩ := holdsRaw_of_parameters? hes
  refine ⟨es, hes, ofRawKey_of_parameters? hp hes, toRawKey_of_parameters? hq hes, ?_⟩
  rw [c.fields_curve]
  simp only [List.forall_mem_cons, List.not_mem_nil, false_implies, implies_true, and_true]
  exact ⟨Value.seen_eq_of_int? hholds'.keyType hholds.keyType,
    Value.seen_eq_of_int? (CoseKey.int?_get_of_find? halg') halg,
    Value.seen_eq_of_int? hholds'.curve hholds.curve,
    (Value.seen_eq_iff_of_byteString? hholds'.xBytes hholds.xBytes).2 rfl⟩

/-- **A key on P-256 is written as it was read up to its coordinates**, and each of these comes back
exactly if it was written in full. -/
theorem written_of_toPoint (hp : .sha256 ∉ p.missing) (h : k.toPoint q = .ok pub) :
    ∃ es a b, pub.parameters? = some es ∧ CoseKey.ofPoint p (.publicKey pub) = .ok ⟨es⟩ ∧
      CoseKey.toPoint q ⟨es⟩ = .ok pub ∧
      (∀ label ∈ [KeyLabel.kty, .alg, .crv],
        (CoseKey.get ⟨es⟩ label).seen = (k.get label).seen) ∧
      (k.get .x).byteString? = some a ∧ (k.get .y).byteString? = some b ∧
      ((CoseKey.get ⟨es⟩ .x).seen = (k.get .x).seen ↔ IsCoordinate a) ∧
      ((CoseKey.get ⟨es⟩ .y).seen = (k.get .y).seen ↔ IsCoordinate b) := by
  obtain ⟨hq, halg, _, _, hholds, rfl⟩ := CoseKey.toPoint_eq_ok_iff.1 h
  obtain ⟨a, ha, rfl⟩ := hholds.xBytes
  obtain ⟨b, hb, rfl⟩ := hholds.yBytes
  obtain ⟨es, hes⟩ : ∃ es, (p256 (coordinateOf a) (coordinateOf b)).parameters? = some es :=
    ⟨_, rfl⟩
  obtain ⟨hholds', halg'⟩ := holdsPoint_of_parameters? hholds.onCurve hes
  obtain ⟨hx, hy⟩ := coordinates_of_parameters? hes
  refine ⟨es, a, b, hes, CoseKey.ofPublicKey_eq hp hes,
    toPoint_of_parameters? hq hholds.onCurve hes, ?_, ha, hb, ?_, ?_⟩
  · simp only [List.forall_mem_cons, List.not_mem_nil, false_implies, implies_true, and_true]
    exact ⟨Value.seen_eq_of_int? hholds'.keyType hholds.keyType,
      Value.seen_eq_of_int? (CoseKey.int?_get_of_find? halg') halg,
      Value.seen_eq_of_int? hholds'.curve hholds.curve⟩
  · rw [Value.seen_eq_iff_of_byteString? hx ha, ofNatBE_coordinateOf_eq_iff]
  · rw [Value.seen_eq_iff_of_byteString? hy hb, ofNatBE_coordinateOf_eq_iff]

theorem toPoint_of_decodePoint (h : decodePoint q k.toValue = .ok pub) : k.toPoint q = .ok pub := h

theorem bytesAt_of_toPoint (h : k.toPoint q = .ok pub) :
    ∃ a b, k.bytesAt .x = some a ∧ k.bytesAt .y = some b ∧
      pub = .p256 (coordinateOf a) (coordinateOf b) := by
  obtain ⟨-, -, _, _, ⟨-, -, ⟨a, ha, rfl⟩, ⟨b, hb, rfl⟩, -⟩, rfl⟩ := CoseKey.toPoint_eq_ok_iff.1 h
  rw [CoseKey.byteString?_get] at ha hb
  exact ⟨a, b, ha, hb, rfl⟩

/-- **Keys that are read as one on a raw curve have the same `x`.** -/
theorem bytesAt_eq_of_toRawKey {k' : CoseKey} {c : RawCurve} (h : k.toRawKey q c = .ok pub)
    (h' : k'.toRawKey q c = .ok pub) : k.bytesAt .x = k'.bytesAt .x := by
  obtain ⟨-, -, raw, hholds, rfl⟩ := CoseKey.toRawKey_eq_ok_iff.1 h
  obtain ⟨-, -, raw', hholds', hraw⟩ := CoseKey.toRawKey_eq_ok_iff.1 h'
  obtain rfl : raw = raw' := by
    cases c with
    | x25519 | ed25519 =>
        cases hraw
        rfl
  rw [← CoseKey.byteString?_get, ← CoseKey.byteString?_get, hholds.xBytes, hholds'.xBytes]

/-- **Keys that are read as one on P-256 have the same coordinates**, as numbers. -/
theorem coordinateOf_eq_of_toPoint {k' : CoseKey} (h : k.toPoint q = .ok pub)
    (h' : k'.toPoint q = .ok pub) {label : KeyLabel} (hlabel : label ∈ [KeyLabel.x, .y])
    {a b : Bytes} (ha : k.bytesAt label = some a) (hb : k'.bytesAt label = some b) :
    coordinateOf a = coordinateOf b := by
  obtain ⟨x, y, hx, hy, hpub⟩ := bytesAt_of_toPoint h
  obtain ⟨x', y', hx', hy', hpub'⟩ := bytesAt_of_toPoint h'
  obtain ⟨hxx, hyy⟩ := p256.inj (hpub.symm.trans hpub')
  simp only [List.mem_cons, List.not_mem_nil, or_false] at hlabel
  rcases hlabel with rfl | rfl
  · cases ha.symm.trans hx
    cases hb.symm.trans hx'
    exact hxx
  · cases ha.symm.trans hy
    cases hb.symm.trans hy'
    exact hyy

end PublicKey

/-! ## Pinning -/

/-- Pinning takes a key for one with the same `x`, as far as this can be seen. -/
theorem CoseKey.samePinned_iff {k k' : CoseKey} {x : Bytes} (hx : (k.get .x).byteString? = some x) :
    k.SamePinned k' ↔ (k'.get .x).seen = (k.get .x).seen := by
  constructor
  · rintro ⟨x', h, h'⟩
    exact (Value.seen_eq_iff_of_byteString? h' h).2 rfl
  · intro h
    have hbytes : (k'.get .x).byteString? = (k.get .x).byteString? := congrArg (·.2.2) h
    exact ⟨x, hx, hbytes.trans hx⟩

/-- **A public key that is expected is compared in its written form.** -/
theorem Certificate.checkExpected_publicKey_iff {p : Platform} (hp : .sha256 ∉ p.missing)
    {m : SignedMessage} {k : CoseKey} (hk : HoldsKey m.payload k) {pub : PublicKey} {es : Entries}
    (hes : pub.parameters? = some es) :
    (checkExpected p m (.publicKey pub)).result = .ok () ↔ k.SamePinned ⟨es⟩ := by
  have hwritten : CoseKey.ofPublicKey p pub = .ok ⟨es⟩ := CoseKey.ofPublicKey_eq hp hes
  rw [checkExpected_eq_ok_iff]
  constructor
  · rintro ⟨certified, k', hcertified, hexpects, hsame⟩
    have hk' := (CoseKey.decode_eq_ok_iff.2 hk).symm.trans (CoseKey.decode_eq_ok_iff.2 hcertified)
    obtain rfl : k = certified := Except.ok.inj hk'
    cases hexpects with
    | publicKey h =>
        obtain rfl : CoseKey.mk es = k' := Except.ok.inj (hwritten.symm.trans h)
        exact hsame
    | structured h =>
        -- a public key is neither a map nor the encoding of one
        cases h with
        | encoded hv _ => cases hv
  · intro hsame
    exact ⟨k, ⟨es⟩, hk, .publicKey hwritten, hsame⟩

/-! ## The readers -/

namespace PublicKey

/-- **What a reader accepts, written again.** A key that is read on a raw curve is written with the
fields that it had, so that it passes where the public key read from it is expected. A key that is
read on P-256 is written with the type, the algorithm and the curve that it had, and it is read as the
same point again; but its `x` comes back exactly if it was written in full, and so does its `y`, and it
passes where this point is expected exactly if its `x` was. Two keys on a raw curve that are read as
one have the same `x`, and two on P-256 have the same coordinates as numbers, and as bytes where both
are written in full. -/
theorem written_as_read_iff (p q : Platform) (hp : .sha256 ∉ p.missing) :
    (∀ (c : RawCurve) (v : Value) (pub : PublicKey), decodeRaw q c v = .ok pub →
      ∃ k k', CoseKey.decode v = .ok k ∧ CoseKey.ofRawKey p c (.publicKey pub) = .ok k' ∧
        decodeRaw q c k'.toValue = .ok pub ∧
        (∀ label ∈ c.curve.fields, (k'.get label).seen = (k.get label).seen) ∧
        ∀ m : SignedMessage, m.payload = v →
          (Certificate.checkExpected p m (.publicKey pub)).result = .ok ()) ∧
    (∀ (v : Value) (pub : PublicKey), decodePoint q v = .ok pub →
      ∃ k k' a b, CoseKey.decode v = .ok k ∧ CoseKey.ofPoint p (.publicKey pub) = .ok k' ∧
        decodePoint q k'.toValue = .ok pub ∧
        (∀ label ∈ [KeyLabel.kty, .alg, .crv], (k'.get label).seen = (k.get label).seen) ∧
        k.bytesAt .x = some a ∧ k.bytesAt .y = some b ∧
        ((k'.get .x).seen = (k.get .x).seen ↔ IsCoordinate a) ∧
        ((k'.get .y).seen = (k.get .y).seen ↔ IsCoordinate b) ∧
        ∀ m : SignedMessage, m.payload = v →
          ((Certificate.checkExpected p m (.publicKey pub)).result = .ok () ↔ IsCoordinate a)) ∧
    (∀ (c : RawCurve) (k k' : CoseKey) (pub : PublicKey), decodeRaw q c k.toValue = .ok pub →
      decodeRaw q c k'.toValue = .ok pub → k.bytesAt .x = k'.bytesAt .x) ∧
    ∀ (k k' : CoseKey) (pub : PublicKey) (label : KeyLabel) (a b : Bytes),
      decodePoint q k.toValue = .ok pub → decodePoint q k'.toValue = .ok pub →
      label ∈ [KeyLabel.x, .y] → k.bytesAt label = some a → k'.bytesAt label = some b →
        coordinateOf a = coordinateOf b ∧ (IsCoordinate a → IsCoordinate b → a = b) := by
  refine ⟨fun c v pub h => ?_, fun v pub h => ?_, fun c k k' pub => bytesAt_eq_of_toRawKey,
    fun k k' pub label a b h h' hlabel ha hb => ?_⟩
  · obtain ⟨k, hk, hread⟩ := bind_eq_ok.1 h
    obtain ⟨es, hes, hwrite, hagain, hfields⟩ := written_of_toRawKey hp hread
    refine ⟨k, ⟨es⟩, hk, hwrite, hagain, hfields, ?_⟩
    rintro m rfl
    rw [Certificate.checkExpected_publicKey_iff hp (CoseKey.decode_eq_ok_iff.1 hk) hes]
    obtain ⟨-, -, raw, hholds, -⟩ := CoseKey.toRawKey_eq_ok_iff.1 hread
    refine (CoseKey.samePinned_iff hholds.xBytes).2 (hfields .x ?_)
    rw [c.fields_curve]
    decide
  · obtain ⟨k, hk, hread⟩ := bind_eq_ok.1 h
    obtain ⟨es, a, b, hes, hwrite, hagain, hnumbers, ha, hb, hx, hy⟩ := written_of_toPoint hp hread
    rw [CoseKey.byteString?_get] at ha hb
    refine ⟨k, ⟨es⟩, a, b, hk, hwrite, hagain, hnumbers, ha, hb, hx, hy, ?_⟩
    rintro m rfl
    rw [Certificate.checkExpected_publicKey_iff hp (CoseKey.decode_eq_ok_iff.1 hk) hes,
      CoseKey.samePinned_iff (by rw [CoseKey.byteString?_get, ha]), hx]
  · have hsame : coordinateOf a = coordinateOf b := coordinateOf_eq_of_toPoint h h' hlabel ha hb
    exact ⟨hsame, fun hfull hfull' => hfull.eq_of_coordinateOf_eq hfull' hsame⟩

/-- A structured key on P-256 with the given bytes for its coordinates. -/
def pointKey (x y : Bytes) : CoseKey where
  parameters :=
    [(.int KeyLabel.kty.number, .int KeyType.ec2.number),
      (.int KeyLabel.alg.number, .int Algorithm.es256.number),
      (.int KeyLabel.crv.number, .int Curve.p256.number),
      (.int KeyLabel.x.number, .bytes x), (.int KeyLabel.y.number, .bytes y)]

theorem bytesAt_pointKey (x y : Bytes) :
    (pointKey x y).bytesAt .x = some x ∧ (pointKey x y).bytesAt .y = some y := by
  constructor
  · simp [pointKey, CoseKey.bytesAt, KeyLabel.number, Value.byteString?]
  · simp [pointKey, CoseKey.bytesAt, KeyLabel.number, Value.byteString?]

theorem decodePoint_pointKey {x y : Bytes}
    (h : DeviceTrust.p256.onCurve (coordinateOf x) (coordinateOf y) = true) :
    decodePoint {} (pointKey x y).toValue = .ok (.p256 (coordinateOf x) (coordinateOf y)) := by
  obtain ⟨hx, hy⟩ := bytesAt_pointKey x y
  refine (decodePoint_eq_ok_iff List.not_mem_nil).2 ⟨?_, ?_, ?_, x, y, hx, hy, h, rfl⟩
  · simp [pointKey, CoseKey.integerAt, KeyLabel.number, Value.int?]
  · simp [pointKey, CoseKey.integerAt, KeyLabel.number, Value.int?]
  · simp [pointKey, CoseKey.integerAt, KeyLabel.number, Value.int?]

def baseX : Bytes := Bytes.ofNatBE Parameters.coordinateLength DeviceTrust.p256.baseX

def baseY : Bytes := Bytes.ofNatBE Parameters.coordinateLength DeviceTrust.p256.baseY

theorem isCoordinate_base : IsCoordinate baseX ∧ IsCoordinate baseY :=
  ⟨isCoordinate_ofNatBE (by decide), isCoordinate_ofNatBE (by decide)⟩

theorem onCurve_base :
    DeviceTrust.p256.onCurve (coordinateOf baseX) (coordinateOf baseY) = true := by
  have hx : coordinateOf baseX = DeviceTrust.p256.baseX := toNatBE_coordinate (by decide)
  have hy : coordinateOf baseY = DeviceTrust.p256.baseY := toNatBE_coordinate (by decide)
  rw [hx, hy]
  decide +kernel

/-- The base point, written in full, comes back byte for byte. -/
theorem written_as_read_iff_base : ∃ pub k',
    decodePoint {} (pointKey baseX baseY).toValue = .ok pub ∧
      CoseKey.ofPoint {} (.publicKey pub) = .ok k' ∧
      (k'.get .x).seen = ((pointKey baseX baseY).get .x).seen ∧
      (k'.get .y).seen = ((pointKey baseX baseY).get .y).seen := by
  have hread := decodePoint_pointKey onCurve_base
  obtain ⟨k, k', a, b, hk, hwrite, -, -, ha, hb, hx, hy, -⟩ :=
    (written_as_read_iff {} {} List.not_mem_nil).2.1 _ _ hread
  obtain rfl : pointKey baseX baseY = k := Except.ok.inj hk
  obtain ⟨hbaseX, hbaseY⟩ := bytesAt_pointKey baseX baseY
  obtain rfl : baseX = a := Option.some.inj (hbaseX.symm.trans ha)
  obtain rfl : baseY = b := Option.some.inj (hbaseY.symm.trans hb)
  exact ⟨_, k', hread, hwrite, hx.2 isCoordinate_base.1, hy.2 isCoordinate_base.2⟩

/-- **A point with two spellings.** The base point is read from its `x` in full and from the same bytes
after a zero, and it is written in full: a key with the longer `x` does not come back, and pinning does
not take what is written for it. -/
theorem read_from_longer_x :
    let k := pointKey (Bytes.zeros 1 ++ baseX) baseY
    ∃ pub k', decodePoint {} (pointKey baseX baseY).toValue = .ok pub ∧
      decodePoint {} k.toValue = .ok pub ∧ CoseKey.ofPoint {} (.publicKey pub) = .ok k' ∧
      (k'.get .x).seen ≠ (k.get .x).seen ∧ ¬ k.SamePinned k' := by
  intro k
  have hsame := coordinateOf_zeros_append 1 baseX
  have hread : decodePoint {} k.toValue = .ok (.p256 (coordinateOf baseX) (coordinateOf baseY)) := by
    have hcurve := onCurve_base
    rw [← hsame] at hcurve ⊢
    exact decodePoint_pointKey hcurve
  obtain ⟨es, a, -, -, hwrite, -, -, ha, -, hx, -⟩ :=
    written_of_toPoint (p := {}) List.not_mem_nil (toPoint_of_decodePoint hread)
  obtain rfl : Bytes.zeros 1 ++ baseX = a := Option.some.inj
    ((bytesAt_pointKey _ _).1.symm.trans ((CoseKey.byteString?_get _ _).symm.trans ha))
  have hlonger := isCoordinate_base.1.not_zeros_append Nat.one_pos
  refine ⟨_, ⟨es⟩, decodePoint_pointKey onCurve_base, hread, hwrite, fun h => hlonger (hx.1 h), ?_⟩
  rw [CoseKey.samePinned_iff ha, hx]
  exact hlonger

end PublicKey

end DeviceTrust
