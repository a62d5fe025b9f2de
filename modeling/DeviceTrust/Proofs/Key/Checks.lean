import DeviceTrust.Proofs.Cose.Forms
import DeviceTrust.Proofs.Cose.Key
import DeviceTrust.Proofs.Key.Reading

/-!
# The order of the field checks

A strict reader is a list of checks, each on one field of the key (`FieldCheck`), and it refuses a key
with the error of the first check that fails (`PublicKey.errorOf_decodeOn`). The lists are those of
`Curve.checks`: the readers of raw curves look at the types of all three numbers before they look at
any number itself, the reader of P-256 at the type and the number of one field after the other.

What a check looks at is a field as it stands in the key: its type, and the integer or the bytes that
it is. A field that is not there has the type of null.
-/

set_option autoImplicit false

namespace DeviceTrust

/-! ## Fields -/

namespace CoseKey

variable {k : CoseKey} {label : KeyLabel}

/-- The type of a field: that of null, if it is not there. -/
def kindAt (k : CoseKey) (label : KeyLabel) : Kind :=
  match k.find? (.int label.number) with
  | some v => v.kindOf
  | none => .simpleValue

/-- The integer in a field, if it is there and is one. A boolean is none, nor is a floating-point
number. -/
def integerAt (k : CoseKey) (label : KeyLabel) : Option Int :=
  (k.find? (.int label.number)).bind Value.int?

def bytesAt (k : CoseKey) (label : KeyLabel) : Option Bytes :=
  (k.find? (.int label.number)).bind Value.byteString?

theorem kindOf_get (k : CoseKey) (label : KeyLabel) :
    (k.get label).kindOf = k.kindAt label := by
  unfold get kindAt
  cases k.find? (.int label.number) <;> rfl

theorem int?_get (k : CoseKey) (label : KeyLabel) :
    (k.get label).int? = k.integerAt label := by
  unfold get integerAt
  cases k.find? (.int label.number) <;> rfl

theorem byteString?_get (k : CoseKey) (label : KeyLabel) :
    (k.get label).byteString? = k.bytesAt label := by
  unfold get bytesAt
  cases k.find? (.int label.number) <;> rfl

theorem kindAt_eq_integer_iff : k.kindAt label = .integer ↔ ∃ n, k.integerAt label = some n := by
  rw [← kindOf_get, ← int?_get]
  cases k.get label <;> simp [Value.kindOf, Value.int?]

theorem kindAt_eq_byteString_iff :
    k.kindAt label = .byteString ↔ ∃ b, k.bytesAt label = some b := by
  rw [← kindOf_get, ← byteString?_get]
  exact Value.kindOf_eq_byteString_iff

end CoseKey

/-! ## Checks -/

/-- The coordinate that some bytes stand for: a big-endian number, which counts modulo the prime of
the field of P-256. -/
def coordinateOf (b : Bytes) : Nat := Bytes.toNatBE b % p256.prime

/-- **One check of a strict reader.** -/
inductive FieldCheck where
  /-- The field has a type. -/
  | type (label : KeyLabel) (kind : Kind)
  /-- The integer in the field is the expected one. -/
  | number (mismatch : KeyMismatch) (expected : Int)
  /-- The bytes of `x` are as many as a key on the curve has. -/
  | keyLength (c : RawCurve)
  /-- The bytes of `x` and `y` are the coordinates of a point on P-256. -/
  | point
  deriving DecidableEq, Repr

namespace FieldCheck

/-- **The error of a check on a key**, if it fails. A check on the content of a field does not fail
for its type: for that there is a check of its own. -/
def refusal? (k : CoseKey) : FieldCheck → Option Error
  | type label kind =>
    if k.kindAt label = kind then none else some (.parameterType label kind (k.kindAt label))
  | number mismatch expected => (k.integerAt mismatch.label).bind fun n =>
    if n = expected then none else some (.parameterValue mismatch expected n)
  | keyLength c => (k.bytesAt .x).bind fun x =>
    if x.length = 32 then none else some (.rawKey c (some x.length) (.plain .value))
  | point => (k.bytesAt .x).bind fun x => (k.bytesAt .y).bind fun y =>
    if p256.onCurve (coordinateOf x) (coordinateOf y) then none
    else some (.offCurve (.plain .value))

def firstRefusal? (k : CoseKey) (checks : List FieldCheck) : Option Error :=
  checks.findSome? (refusal? k)

@[simp] theorem firstRefusal?_nil (k : CoseKey) : firstRefusal? k [] = none := rfl

theorem firstRefusal?_cons (k : CoseKey) (check : FieldCheck) (rest : List FieldCheck) :
    firstRefusal? k (check :: rest) = (check.refusal? k).or (firstRefusal? k rest) := by
  rw [firstRefusal?, List.findSome?_cons]
  cases check.refusal? k <;> rfl

/-! ### What a failed check reports -/

def reason : FieldCheck → Reason
  | type _ _ => .typeMismatch
  | number _ _ => .incorrectCoseType
  | keyLength _ | point => .malformedKey

def field? : FieldCheck → Option String
  | type label _ => some label.field
  | number mismatch _ => some mismatch.label.field
  | keyLength _ => some KeyLabel.x.field
  | point => none

/-- What should have been in the field: a type, a number, or a number of bytes. -/
def expected : FieldCheck → Value
  | type _ kind => .kind kind
  | number _ expected => .int expected
  | keyLength _ => .int 32
  | point => .null

def actual (k : CoseKey) : FieldCheck → Value
  | type label _ => .kind (k.kindAt label)
  | number mismatch _ => ((k.integerAt mismatch.label).map Value.int).getD .null
  | keyLength _ => ((k.bytesAt .x).map fun x => Value.int x.length).getD .null
  | point => .null

/-- **Every error names the field it checks**, what was expected there and what is there. -/
theorem report_of_refusal {k : CoseKey} {check : FieldCheck} {e : Error}
    (h : check.refusal? k = some e) : ∃ message,
      e.report? = some ⟨message, check.reason, check.field?, check.expected, check.actual k⟩ := by
  cases check with
  | type label kind =>
      simp only [refusal?, Option.ite_none_left_eq_some, Option.some.injEq] at h
      obtain ⟨-, rfl⟩ := h
      exact ⟨_, rfl⟩
  | number mismatch expected =>
      obtain ⟨n, hn, h⟩ := Option.bind_eq_some_iff.1 h
      simp only [Option.ite_none_left_eq_some, Option.some.injEq] at h
      obtain ⟨-, rfl⟩ := h
      simp only [actual, hn, Option.map_some, Option.getD_some]
      exact ⟨_, rfl⟩
  | keyLength c =>
      obtain ⟨x, hx, h⟩ := Option.bind_eq_some_iff.1 h
      simp only [Option.ite_none_left_eq_some, Option.some.injEq] at h
      obtain ⟨-, rfl⟩ := h
      simp only [actual, hx, Option.map_some, Option.getD_some]
      cases c <;> exact ⟨_, rfl⟩
  | point =>
      obtain ⟨x, -, h⟩ := Option.bind_eq_some_iff.1 h
      obtain ⟨y, -, h⟩ := Option.bind_eq_some_iff.1 h
      simp only [Option.ite_none_left_eq_some, Option.some.injEq] at h
      obtain ⟨-, rfl⟩ := h
      exact ⟨_, rfl⟩

end FieldCheck

/-! ## Readers -/

/-- The checks of the reader of a raw curve: the types of the numbers, the numbers, the key. -/
def RawCurve.checks (c : RawCurve) : List FieldCheck :=
  [.type .crv .integer, .type .kty .integer, .type .alg .integer,
    .number .keyType KeyType.okp.number, .number .curve c.curve.number,
    .number .algorithmOfCurve c.curve.algorithm.number,
    .type .x .byteString, .keyLength c]

/-- **The checks of the reader of a curve**, in their order. -/
def Curve.checks : Curve → List FieldCheck
  | x25519 => RawCurve.x25519.checks
  | ed25519 => RawCurve.ed25519.checks
  | p256 =>
    [.type .kty .integer, .number .keyType KeyType.ec2.number,
      .type .alg .integer, .number .algorithm Algorithm.es256.number,
      .type .crv .integer, .number .curve Curve.p256.number,
      .type .x .byteString, .type .y .byteString, .point]

/-- **The fields of a key on a curve.** -/
def Curve.fields : Curve → List KeyLabel
  | x25519 | ed25519 => [.kty, .alg, .crv, .x]
  | p256 => [.kty, .alg, .crv, .x, .y]

def Curve.primitive : Curve → Primitive
  | .x25519 => .x25519Public | .ed25519 => .ed25519Public | .p256 => .p256Public

def PublicKey.decodeOn (p : Platform) (v : Value) : Curve → Except Error PublicKey
  | .x25519 => decodeRaw p .x25519 v
  | .ed25519 => decodeRaw p .ed25519 v
  | .p256 => decodePoint p v

/-! ## The steps of the readers -/

namespace CoseKey

open FieldCheck

variable {k : CoseKey}

/-- A field is refused for its type exactly if it has none of the content that the type has. -/
theorem errorOf_content {α : Type} {content : Option α} {label : KeyLabel} {kind : Kind}
    (h : k.kindAt label = kind ↔ ∃ a, content = some a) :
    errorOf (content.elim (.error (.parameterType label kind (k.kindAt label))) .ok) =
      (type label kind).refusal? k := by
  rw [refusal?]
  cases content with
  | some a =>
      rw [if_pos (h.2 ⟨a, rfl⟩)]
      rfl
  | none =>
      have hkind : k.kindAt label ≠ kind := fun hkind => by
        obtain ⟨a, ha⟩ := h.1 hkind
        cases ha
      rw [if_neg hkind]
      rfl

theorem errorOf_requireInteger (k : CoseKey) (label : KeyLabel) :
    errorOf (k.requireInteger label) = (type label .integer).refusal? k := by
  rw [requireInteger, int?_get, kindOf_get, ← errorOf_content kindAt_eq_integer_iff]
  cases k.integerAt label <;> rfl

theorem errorOf_requireBytes (k : CoseKey) (label : KeyLabel) :
    errorOf (k.requireBytes label) = (type label .byteString).refusal? k := by
  rw [requireBytes, byteString?_get, kindOf_get, ← errorOf_content kindAt_eq_byteString_iff]
  cases k.bytesAt label <;> rfl

theorem integerAt_of_requireInteger {label : KeyLabel} {n : Int}
    (h : k.requireInteger label = .ok n) : k.integerAt label = some n :=
  (int?_get k label).symm.trans (requireInteger_eq_ok_iff.1 h)

theorem bytesAt_of_requireBytes {label : KeyLabel} {b : Bytes}
    (h : k.requireBytes label = .ok b) : k.bytesAt label = some b :=
  (byteString?_get k label).symm.trans (requireBytes_eq_ok_iff.1 h)

/-- A number is compared once its type has been checked. -/
theorem errorOf_compare {mismatch : KeyMismatch} {n expected : Int}
    (h : k.requireInteger mismatch.label = .ok n) :
    errorOf (if n = expected then .ok () else .error (.parameterValue mismatch expected n)) =
      (number mismatch expected).refusal? k := by
  rw [refusal?, integerAt_of_requireInteger h, Option.bind_some]
  split <;> rfl

theorem errorOf_expect (k : CoseKey) (mismatch : KeyMismatch) (expected : Int) :
    errorOf (k.expect mismatch expected) =
      ((type mismatch.label .integer).refusal? k).or ((number mismatch expected).refusal? k) :=
  errorOf_bind (errorOf_requireInteger k mismatch.label) fun _ h => errorOf_compare h

/-- Where the type has been checked before, only the number is left to check. -/
theorem errorOf_expect_of_requireInteger (mismatch : KeyMismatch) {n : Int}
    (h : k.requireInteger mismatch.label = .ok n) (expected : Int) :
    errorOf (k.expect mismatch expected) = (number mismatch expected).refusal? k := by
  rw [expect, h]
  exact errorOf_compare h

theorem errorOf_expect_bind {α : Type} {f : Unit → Except Error α} {rest : Option Error}
    (hf : errorOf (f ()) = rest) (mismatch : KeyMismatch) (expected : Int) :
    errorOf (k.expect mismatch expected >>= f) = ((type mismatch.label .integer).refusal? k).or
      (((number mismatch expected).refusal? k).or rest) := by
  rw [← Option.or_assoc]
  exact errorOf_bind (errorOf_expect k mismatch expected) fun _ _ => hf

/-- On a platform with the primitive, only the number of bytes is checked. -/
theorem errorOf_ofRaw {p : Platform} {c : RawCurve} {x : Bytes} (hp : c.primitive ∉ p.missing)
    (hx : k.bytesAt .x = some x) :
    errorOf (PublicKey.ofRaw p c (.bytes x)) = (keyLength c).refusal? k := by
  show errorOf (p.require c.primitive >>= _) = _
  rw [Platform.require_eq_ok_iff.2 hp, refusal?, hx, Option.bind_some]
  show errorOf (dite _ _ _) = _
  by_cases hlength : x.length = 32
  · rw [if_pos hlength]
    exact congrArg errorOf (dif_pos hlength)
  · rw [if_neg hlength]
    exact congrArg errorOf (dif_neg hlength)

/-- **The reader of a raw curve refuses a key for the first check that fails.** -/
theorem errorOf_toRawKey {p : Platform} {c : RawCurve} (hp : c.primitive ∉ p.missing)
    (k : CoseKey) : errorOf (k.toRawKey p c) = firstRefusal? k c.checks := by
  unfold toRawKey RawCurve.checks
  simp only [firstRefusal?_cons, firstRefusal?_nil, Option.or_none]
  refine errorOf_bind (errorOf_requireInteger k .crv) fun crv hcrv => ?_
  refine errorOf_bind (errorOf_requireInteger k .kty) fun kty hkty => ?_
  refine errorOf_bind (errorOf_requireInteger k .alg) fun alg halg => ?_
  -- the three types are right, so that only the numbers can be wrong
  refine errorOf_bind (errorOf_expect_of_requireInteger .keyType hkty _) fun _ _ => ?_
  refine errorOf_bind (errorOf_expect_of_requireInteger .curve hcrv _) fun _ _ => ?_
  refine errorOf_bind (errorOf_expect_of_requireInteger .algorithmOfCurve halg _) fun _ _ => ?_
  exact errorOf_bind (errorOf_requireBytes k .x) fun x hx =>
    errorOf_ofRaw hp (bytesAt_of_requireBytes hx)

/-- **The reader of P-256 refuses a key for the first check that fails.** -/
theorem errorOf_toPoint {p : Platform} (hp : .p256Public ∉ p.missing) (k : CoseKey) :
    errorOf (k.toPoint p) = firstRefusal? k Curve.p256.checks := by
  unfold toPoint Curve.checks
  simp only [firstRefusal?_cons, firstRefusal?_nil, Option.or_none]
  refine errorOf_expect_bind ?_ .keyType _
  refine errorOf_expect_bind ?_ .algorithm _
  refine errorOf_expect_bind ?_ .curve _
  refine errorOf_bind (errorOf_requireBytes k .x) fun x hx => ?_
  refine errorOf_bind (errorOf_requireBytes k .y) fun y hy => ?_
  rw [Platform.require_eq_ok_iff.2 hp, refusal?, bytesAt_of_requireBytes hx,
    bytesAt_of_requireBytes hy, Option.bind_some, Option.bind_some]
  by_cases hcurve : p256.onCurve (coordinateOf x) (coordinateOf y) = true
  · rw [if_pos hcurve]
    exact congrArg errorOf (if_pos hcurve)
  · rw [if_neg hcurve]
    exact congrArg errorOf (if_neg hcurve)

end CoseKey

/-! ## What the readers accept -/

theorem Curve.algorithm_number_injective {c c' : Curve}
    (h : c.algorithm.number = c'.algorithm.number) : c = c' := by
  cases c <;> cases c' <;> first | rfl | cases h

namespace PublicKey

open FieldCheck

variable {p : Platform} {k : CoseKey}

theorem decodeRaw_eq_ok_iff {c : RawCurve} (hp : c.primitive ∉ p.missing) {pub : PublicKey} :
    decodeRaw p c k.toValue = .ok pub ↔
      k.integerAt .kty = some KeyType.okp.number ∧ k.integerAt .crv = some c.curve.number ∧
        k.integerAt .alg = some c.curve.algorithm.number ∧
        ∃ raw : RawKey, k.bytesAt .x = some raw.bytes ∧ pub = c.publicKey raw := by
  show k.toRawKey p c = .ok pub ↔ _
  rw [CoseKey.toRawKey_eq_ok_iff, CoseKey.int?_get]
  constructor
  · rintro ⟨-, halg, raw, ⟨hkty, hcrv, hx⟩, rfl⟩
    rw [CoseKey.int?_get] at hkty hcrv
    rw [CoseKey.byteString?_get] at hx
    exact ⟨hkty, hcrv, halg, raw, hx, rfl⟩
  · rintro ⟨hkty, hcrv, halg, raw, hx, rfl⟩
    rw [← CoseKey.int?_get] at hkty hcrv
    rw [← CoseKey.byteString?_get] at hx
    exact ⟨hp, halg, raw, ⟨hkty, hcrv, hx⟩, rfl⟩

theorem decodePoint_eq_ok_iff (hp : .p256Public ∉ p.missing) {pub : PublicKey} :
    decodePoint p k.toValue = .ok pub ↔
      k.integerAt .kty = some KeyType.ec2.number ∧
        k.integerAt .alg = some Algorithm.es256.number ∧
        k.integerAt .crv = some Curve.p256.number ∧
        ∃ a b, k.bytesAt .x = some a ∧ k.bytesAt .y = some b ∧
          DeviceTrust.p256.onCurve (coordinateOf a) (coordinateOf b) = true ∧
          pub = .p256 (coordinateOf a) (coordinateOf b) := by
  show k.toPoint p = .ok pub ↔ _
  rw [CoseKey.toPoint_eq_ok_iff, CoseKey.int?_get]
  constructor
  · rintro ⟨-, halg, x, y, ⟨hkty, hcrv, ⟨a, ha, rfl⟩, ⟨b, hb, rfl⟩, hcurve⟩, rfl⟩
    rw [CoseKey.int?_get] at hkty hcrv
    rw [CoseKey.byteString?_get] at ha hb
    exact ⟨hkty, halg, hcrv, a, b, ha, hb, hcurve, rfl⟩
  · rintro ⟨hkty, halg, hcrv, a, b, ha, hb, hcurve, rfl⟩
    rw [← CoseKey.int?_get] at hkty hcrv
    rw [← CoseKey.byteString?_get] at ha hb
    exact ⟨hp, halg, _, _, ⟨hkty, hcrv, ⟨a, ha, rfl⟩, ⟨b, hb, rfl⟩, hcurve⟩, rfl⟩

theorem errorOf_decodeOn {c : Curve} (hp : c.primitive ∉ p.missing) (k : CoseKey) :
    errorOf (decodeOn p k.toValue c) = firstRefusal? k c.checks := by
  cases c with
  | p256 => exact CoseKey.errorOf_toPoint hp k
  | x25519 => exact CoseKey.errorOf_toRawKey (c := .x25519) hp k
  | ed25519 => exact CoseKey.errorOf_toRawKey (c := .ed25519) hp k

theorem integerAt_alg_of_decodeOn {c : Curve} (hp : c.primitive ∉ p.missing) {pub : PublicKey}
    (h : decodeOn p k.toValue c = .ok pub) : k.integerAt .alg = some c.algorithm.number := by
  cases c with
  | p256 => exact ((decodePoint_eq_ok_iff hp).1 h).2.1
  | x25519 => exact ((decodeRaw_eq_ok_iff (c := .x25519) hp).1 h).2.2.1
  | ed25519 => exact ((decodeRaw_eq_ok_iff (c := .ed25519) hp).1 h).2.2.1

/-- **Field validation is exact and ordered.** On a platform with the primitives of all curves, the
reader of a raw curve takes a key exactly if its three numbers are those of the curve and `x` is a
byte string of the length of a key, which is then the key; the reader of P-256 takes a key exactly if
its three numbers are those of the curve and `x` and `y` are byte strings that make a point. Any
other key is refused with the error of the first check that fails, in the order of the reader's list,
and the error tells the reason of this check, its field, what was expected there and what is there.
No key is taken by two readers. -/
theorem decode_checks_in_order (p : Platform) (hp : ∀ c : Curve, c.primitive ∉ p.missing)
    (k : CoseKey) :
    (∀ (c : RawCurve) (pub : PublicKey), decodeRaw p c k.toValue = .ok pub ↔
      k.integerAt .kty = some KeyType.okp.number ∧ k.integerAt .crv = some c.curve.number ∧
        k.integerAt .alg = some c.curve.algorithm.number ∧
        ∃ raw : RawKey, k.bytesAt .x = some raw.bytes ∧ pub = c.publicKey raw) ∧
    (∀ pub : PublicKey, decodePoint p k.toValue = .ok pub ↔
      k.integerAt .kty = some KeyType.ec2.number ∧
        k.integerAt .alg = some Algorithm.es256.number ∧
        k.integerAt .crv = some Curve.p256.number ∧
        ∃ a b, k.bytesAt .x = some a ∧ k.bytesAt .y = some b ∧
          DeviceTrust.p256.onCurve (coordinateOf a) (coordinateOf b) = true ∧
          pub = .p256 (coordinateOf a) (coordinateOf b)) ∧
    (∀ (c : Curve) (e : Error),
      decodeOn p k.toValue c = .error e ↔ firstRefusal? k c.checks = some e) ∧
    (∀ (check : FieldCheck) (e : Error), check.refusal? k = some e → ∃ message,
      e.report? = some ⟨message, check.reason, check.field?, check.expected, check.actual k⟩) ∧
    ∀ (c c' : Curve) (pub pub' : PublicKey), decodeOn p k.toValue c = .ok pub →
      decodeOn p k.toValue c' = .ok pub' → c = c' := by
  have hraw : ∀ c : RawCurve, c.primitive ∉ p.missing := by
    intro c
    cases c with
    | x25519 => exact hp .x25519
    | ed25519 => exact hp .ed25519
  refine ⟨fun c pub => decodeRaw_eq_ok_iff (hraw c), fun pub => decodePoint_eq_ok_iff (hp .p256),
    fun c e => ?_, fun check e => report_of_refusal, fun c c' pub pub' h h' => ?_⟩
  · rw [← errorOf_decodeOn (hp c) k, errorOf_eq_some_iff]
  · have halg := integerAt_alg_of_decodeOn (hp c) h
    rw [integerAt_alg_of_decodeOn (hp c') h'] at halg
    exact Curve.algorithm_number_injective (Option.some_inj.1 halg).symm

/-- A key with many faults: an unknown key type, a floating-point number for the curve, no algorithm,
and no coordinates. A reader of raw curves complains of the type of the curve first, that of P-256 of
the number of the key type. -/
theorem decode_checks_in_order_faults :
    let k : CoseKey := ⟨[(.int 1, .int 7), (.int (-1), .float ⟨0⟩)]⟩
    decodeRaw {} .x25519 k.toValue = .error (.parameterType .crv .integer .float) ∧
      decodePoint {} k.toValue = .error (.parameterValue .keyType 2 7) := by
  intro k
  have hp : ∀ c : Curve, c.primitive ∉ ({} : Platform).missing := fun c => by simp
  have horder := (decode_checks_in_order {} hp k).2.2.1
  have hcrv : k.kindAt .crv = .float := by
    simp [k, CoseKey.kindAt, KeyLabel.number, Value.kindOf]
  have hkind : k.kindAt .kty = .integer := by
    simp [k, CoseKey.kindAt, KeyLabel.number, Value.kindOf]
  have hkty : k.integerAt .kty = some 7 := by
    simp [k, CoseKey.integerAt, KeyLabel.number, Value.int?]
  refine ⟨(horder .x25519 _).2 ?_, (horder .p256 _).2 ?_⟩
  · simp [Curve.checks, RawCurve.checks, firstRefusal?_cons, refusal?, hcrv]
  · simp [Curve.checks, firstRefusal?_cons, refusal?, KeyMismatch.label, hkind, hkty,
      KeyType.number]

/-- The order of X25519: all types of numbers come first. -/
example : Curve.x25519.checks =
    [.type .crv .integer, .type .kty .integer, .type .alg .integer, .number .keyType 1,
      .number .curve 4, .number .algorithmOfCurve (-25), .type .x .byteString,
      .keyLength .x25519] := rfl

/-- The order of P-256: each number comes right after its type. -/
example : Curve.p256.checks =
    [.type .kty .integer, .number .keyType 2, .type .alg .integer, .number .algorithm (-7),
      .type .crv .integer, .number .curve 1, .type .x .byteString, .type .y .byteString,
      .point] := rfl

end PublicKey

end DeviceTrust
