import DeviceTrust.Proofs.Key.Reading
import DeviceTrust.Proofs.Key.Workspace

/-!
# The two sides of a key agreement

What a side derives depends on the outcome of its exchange, on the keys in the device's place and in
the server's, and on the length (`result_directionalKeyOf`). One side sends with its own key in the
device's place, where the other receives with its peer's; so both derive the same key, or fail with
the same error (`directional_keys_agree`).

An exchange fails before a length is looked at, and a length before the hash is asked for.
-/

set_option autoImplicit false

namespace DeviceTrust

/-- **When a key is derived, and which.** -/
theorem Platform.derive_eq_ok_iff {p : Platform} {secret info key : Bytes} {salt : Option Bytes}
    {n : Int} : p.derive secret n info salt = .ok key ↔
      (1 ≤ n ∧ n ≤ Parameters.greatestOutputLength) ∧ .hkdf ∉ p.missing ∧
        Hash.Hkdf.derive secret salt info n.toNat = key := by
  unfold derive
  split
  · rename_i houtside
    simp only [Bool.or_eq_true, decide_eq_true_eq] at houtside
    constructor
    · intro h
      cases h
    · rintro ⟨⟨hlow, hhigh⟩, -⟩
      omega
  · rename_i hinside
    simp only [Bool.or_eq_true, decide_eq_true_eq, not_or, Int.not_lt] at hinside
    constructor
    · intro h
      obtain ⟨_, hrequire, h⟩ := bind_eq_ok.1 h
      exact ⟨hinside, Platform.require_eq_ok_iff.1 hrequire, Except.ok.inj h⟩
    · rintro ⟨-, hhkdf, rfl⟩
      exact bind_eq_ok.2 ⟨(), Platform.require_eq_ok_iff.2 hhkdf, rfl⟩

theorem Platform.derive_of_outside {p : Platform} {n : Int}
    (h : ¬ (1 ≤ n ∧ n ≤ Parameters.greatestOutputLength)) (secret info : Bytes)
    (salt : Option Bytes) :
    p.derive secret n info salt = .error (.fault (.outputLength (toString n))) := by
  refine if_pos ?_
  simp only [Bool.or_eq_true, decide_eq_true_eq]
  omega

theorem Platform.derive_of_missing {p : Platform} {n : Int}
    (h : 1 ≤ n ∧ n ≤ Parameters.greatestOutputLength) (hp : .hkdf ∈ p.missing)
    (secret info : Bytes) (salt : Option Bytes) :
    p.derive secret n info salt = .error (.missing .hkdf) := by
  have hinside :
      ¬ (decide (n < 1) || decide ((Parameters.greatestOutputLength : Int) < n)) = true := by
    simp only [Bool.or_eq_true, decide_eq_true_eq]
    omega
  unfold derive
  rw [if_neg hinside, require_of_missing hp]
  rfl

namespace Agreement

/-! ## The steps of a derivation -/

/-- **Two pairs that can agree on a secret.** The public key of each belongs to its private key, and
what either exchanges is the same; or exchange is not supported, on neither side. -/
inductive Matched : KeyPair → KeyPair → Prop where
  | exchanged (a b : RawKey)
      (law : X25519.shared a.bytes b.x25519Public.bytes
        = X25519.shared b.bytes a.x25519Public.bytes) :
      Matched (x25519Pair a) (x25519Pair b)
  | unsupported (u v : RawKey) :
      Matched ⟨.faultyExchange, .x25519 u⟩ ⟨.faultyExchange, .x25519 v⟩

/-- The length that a value asks for: null asks for the usual one. -/
def lengthOf? : Value → Option Int
  | .null => some Parameters.derivedKeyLength
  | v => v.wholeNumber?

def derivation (p : Platform) (length : Value) (secret info : Bytes) : Except Error Bytes :=
  match requestedLength? length with
  | some length? => p.derive secret (length?.getD Parameters.derivedKeyLength) info none
  | none => p.deriveOf (.buffer secret) length (.bytes []) .null

/-- What the record of a derived key needs. -/
def requireDigest (p : Platform) : Except Error Unit :=
  if p.threshold ≤ Level.debug then p.require .sha256 else .ok ()

/-- **The outcome of a derivation**, from the outcome of the exchange and the keys in the device's
place and in the server's. -/
def outcome (p : Platform) (exchange : Except Error Bytes) (device server : Bytes)
    (length : Value) : Except Error Bytes := do
  let info ← contextOfKeys p device server
  let secret ← exchange
  let key ← derivation p length secret info
  requireDigest p
  return key

variable {p : Platform} {length : Value} {n : Int}

theorem exists_contextOfKeys (p : Platform) (device server : Bytes) :
    ∃ info, contextOfKeys p device server = .ok info := ⟨_, rfl⟩

theorem result_logDerived (p : Platform) (d : Direction) (n : Int) (k : PublicKey) :
    (logDerived p d n k).result = requireDigest p := by
  unfold logDerived requireDigest
  split
  · rw [Traced.result_bind, Traced.result_lift]
    unfold PublicKey.digest Platform.digest
    cases p.require .sha256 with
    | ok _ => rfl
    | error e => rfl
  · rfl

/-- **A length that is a number is one that can be asked for**, or it is the false that counts as
zero. -/
theorem requestedLength?_of_lengthOf? (h : lengthOf? length = some n) :
    (∃ l, requestedLength? length = some l ∧ l.getD Parameters.derivedKeyLength = n) ∨
      length = .bool false ∧ n = 0 := by
  cases length with
  | null => exact .inl ⟨none, rfl, Option.some.inj h⟩
  | bool b =>
      cases b with
      | false => exact .inr ⟨rfl, (Option.some.inj h).symm⟩
      | true => exact .inl ⟨some 1, rfl, Option.some.inj h⟩
  | int m => exact .inl ⟨some m, rfl, Option.some.inj h⟩
  | registered r => exact .inl ⟨some r.number, rfl, Option.some.inj h⟩
  | _ => cases h

/-- A length that is a number is looked at, then the platform is asked for the hash. -/
theorem derivation_eq (h : lengthOf? length = some n) (secret info : Bytes) :
    derivation p length secret info = p.derive secret n info none ∨
      ¬ (1 ≤ n ∧ n ≤ Parameters.greatestOutputLength) ∧
        ∃ shown, derivation p length secret info = .error (.fault (.outputLength shown)) := by
  rcases requestedLength?_of_lengthOf? h with ⟨l, hl, rfl⟩ | ⟨rfl, rfl⟩
  · exact .inl (by rw [derivation, hl])
  · exact .inr ⟨by decide, "False", rfl⟩

/-- **The lengths that can be derived.** -/
theorem derivation_eq_ok_iff (h : lengthOf? length = some n) {secret info key : Bytes} :
    derivation p length secret info = .ok key ↔
      (1 ≤ n ∧ n ≤ Parameters.greatestOutputLength) ∧ .hkdf ∉ p.missing ∧
        Hash.Hkdf.derive secret none info n.toNat = key := by
  rcases derivation_eq h secret info with heq | ⟨houtside, shown, heq⟩
  · rw [heq, Platform.derive_eq_ok_iff]
  · rw [heq]
    exact ⟨fun hkey => (by cases hkey), fun hkey => absurd hkey.1 houtside⟩

/-- **How a derivation fails**: by its length if this is out of range, and else for want of the
hash. -/
theorem derivation_eq_error (h : lengthOf? length = some n) {secret info : Bytes} {e : Error}
    (he : derivation p length secret info = .error e) :
    (1 ≤ n ∧ n ≤ Parameters.greatestOutputLength) ∧ e = .missing .hkdf ∨
      ¬ (1 ≤ n ∧ n ≤ Parameters.greatestOutputLength) ∧
        ∃ shown, e = .fault (.outputLength shown) := by
  rcases derivation_eq h secret info with heq | ⟨houtside, shown, heq⟩
  · rw [heq] at he
    by_cases hn : 1 ≤ n ∧ n ≤ Parameters.greatestOutputLength
    · by_cases hp : .hkdf ∈ p.missing
      · rw [Platform.derive_of_missing hn hp] at he
        cases he
        exact .inl ⟨hn, rfl⟩
      · rw [Platform.derive_eq_ok_iff.2 ⟨hn, hp, rfl⟩] at he
        cases he
    · rw [Platform.derive_of_outside hn] at he
      cases he
      exact .inr ⟨hn, _, rfl⟩
  · rw [heq] at he
    cases he
    exact .inr ⟨houtside, shown, rfl⟩

/-- The keys in the device's place and in the server's, from a side's own key and its peer's. -/
def Direction.places : Direction → RawKey → RawKey → RawKey × RawKey
  | send, own, peer => (own, peer)
  | receive, own, peer => (peer, own)

theorem context_eq (p : Platform) (d : Direction) (u v : RawKey) :
    d.context p (.x25519 u) (.x25519 v)
      = contextOfKeys p (d.places u v).1.bytes (d.places u v).2.bytes := by
  cases d <;> rfl

/-- **What a side derives**, whatever its private key is. -/
theorem result_directionalKeyOf (h : lengthOf? length = some n) (d : Direction) (s : PrivateKey)
    (u v : RawKey) (m : Mark) :
    (directionalKeyOf p d (.keyPair ⟨s, .x25519 u⟩ m) (.publicKey (.x25519 v)) length).result
      = outcome p (sharedSecret (.privateKey s 0) (.publicKey (.x25519 v)))
          (d.places u v).1.bytes (d.places u v).2.bytes length := by
  have hkeys : d.requireKeys (.keyPair ⟨s, .x25519 u⟩ m) (.publicKey (.x25519 v)) = .ok () := by
    cases d <;> rfl
  unfold directionalKeyOf
  rw [hkeys, Traced.result_bind]
  rcases requestedLength?_of_lengthOf? h with ⟨l, hl, -⟩ | ⟨rfl, -⟩
  · rw [hl]
    show (directionalKey p d ⟨s, .x25519 u⟩ (.x25519 v) l).result = _
    rw [directionalKey_eq]
    unfold outcome derivation
    simp only [Traced.result_bind, Traced.result_lift, context_eq, hl, result_logDerived]
    rfl
  · -- the length fails, and no record is made
    obtain ⟨info, hinfo⟩ := exists_contextOfKeys p (d.places u v).1.bytes (d.places u v).2.bytes
    show (withSecret _ _ _).traced.result = _
    unfold outcome
    rw [hinfo, traced_withSecret_held, Traced.result_lift]
    cases sharedSecret (.privateKey s 0) (.publicKey (.x25519 v)) with
    | error e => rfl
    | ok secret => rfl

theorem deriveOf_ne_ok (p : Platform) {length : Value} (h : requestedLength? length = none)
    (secret info salt : Value) (key : Bytes) : p.deriveOf secret length info salt ≠ .ok key := by
  intro hkey
  obtain ⟨_, hlength, hkey⟩ := bind_eq_ok.1 hkey
  obtain ⟨_, -, hkey⟩ := bind_eq_ok.1 hkey
  cases length with
  | bool b =>
      -- false counts as zero, which is out of range
      cases b with
      | false => cases hlength
      | true => cases h
  | null | int _ | registered _ => cases h
  | _ => cases hkey

/-- Only a pair and a public key have the raw bytes that a direction needs. -/
theorem Direction.exists_keys_of_requireKeys {d : Direction} {own peer : Value}
    (h : d.requireKeys own peer = .ok ()) :
    ∃ pair mark k, own = .keyPair pair mark ∧ peer = .publicKey k := by
  have hraw : (∃ b, ownRaw own = .ok b) ∧ ∃ b, peer.toRaw = .ok b := by
    cases d with
    | send =>
        obtain ⟨b, hown, h⟩ := bind_eq_ok.1 h
        obtain ⟨c, hpeer, -⟩ := bind_eq_ok.1 h
        exact ⟨⟨b, hown⟩, c, hpeer⟩
    | receive =>
        obtain ⟨c, hpeer, h⟩ := bind_eq_ok.1 h
        obtain ⟨b, hown, -⟩ := bind_eq_ok.1 h
        exact ⟨⟨b, hown⟩, c, hpeer⟩
  obtain ⟨⟨b, hown⟩, c, hpeer⟩ := hraw
  cases own with
  | keyPair pair mark =>
      cases peer with
      | publicKey k => exact ⟨pair, mark, k, rfl, rfl⟩
      | keyPair _ _ =>
          obtain ⟨_, -, hpeer⟩ := bind_eq_ok.1 hpeer
          cases hpeer
      | _ => cases hpeer
  | _ => cases hown

/-- **When a key is derived, and which.** -/
theorem outcome_eq_ok_iff (h : lengthOf? length = some n) {exchange : Except Error Bytes}
    {device server key : Bytes} :
    outcome p exchange device server length = .ok key ↔
      ∃ info secret, contextOfKeys p device server = .ok info ∧ exchange = .ok secret ∧
        ((1 ≤ n ∧ n ≤ Parameters.greatestOutputLength) ∧ .hkdf ∉ p.missing ∧
          Hash.Hkdf.derive secret none info n.toNat = key) ∧ requireDigest p = .ok () := by
  constructor
  · intro hkey
    obtain ⟨info, hinfo, hkey⟩ := bind_eq_ok.1 hkey
    obtain ⟨secret, hsecret, hkey⟩ := bind_eq_ok.1 hkey
    obtain ⟨_, hderivation, hkey⟩ := bind_eq_ok.1 hkey
    obtain ⟨_, hdigest, hkey⟩ := bind_eq_ok.1 hkey
    cases hkey
    exact ⟨info, secret, hinfo, hsecret, (derivation_eq_ok_iff h).1 hderivation, hdigest⟩
  · rintro ⟨info, secret, hinfo, hsecret, hderivation, hdigest⟩
    refine bind_eq_ok.2 ⟨info, hinfo, bind_eq_ok.2 ⟨secret, hsecret, ?_⟩⟩
    refine bind_eq_ok.2 ⟨key, (derivation_eq_ok_iff h).2 hderivation, ?_⟩
    exact bind_eq_ok.2 ⟨(), hdigest, rfl⟩

theorem requireDigest_eq_ok_iff :
    requireDigest p = .ok () ↔ (p.threshold ≤ Level.debug → .sha256 ∉ p.missing) := by
  unfold requireDigest
  split
  · rename_i hdebug
    rw [Platform.require_eq_ok_iff]
    exact ⟨fun h _ => h, fun h => h hdebug⟩
  · rename_i hdebug
    exact ⟨fun _ h => absurd h hdebug, fun _ => rfl⟩

theorem requireDigest_failsOnly (p : Platform) :
    FailsOnly (fun e => e = .missing .sha256) (requireDigest p) := by
  unfold requireDigest Platform.require
  split
  · split
    · exact .error rfl
    · exact .ok _
  · exact .ok _

/-- **How a derivation fails**, if its exchange only fails with errors of the library: with such an
error too, unless the exchange succeeds and the length is out of range. -/
theorem outcome_eq_error (h : lengthOf? length = some n) {exchange : Except Error Bytes}
    (hexchange : FailsOnly (fun e => e.family? = some .cryptographic) exchange)
    {device server : Bytes} {e : Error} (he : outcome p exchange device server length = .error e) :
    e.family? = some .cryptographic ∧
        ((∃ secret, exchange = .ok secret) → 1 ≤ n ∧ n ≤ Parameters.greatestOutputLength) ∨
      (∃ shown, e = .fault (.outputLength shown)) ∧
        (∃ secret, exchange = .ok secret) ∧ ¬ (1 ≤ n ∧ n ≤ Parameters.greatestOutputLength) := by
  obtain ⟨info, hinfo⟩ := exists_contextOfKeys p device server
  unfold outcome at he
  rw [hinfo] at he
  cases exchange with
  | error e' =>
      cases he
      exact .inl ⟨hexchange _ rfl, fun ⟨_, hsecret⟩ => (by cases hsecret)⟩
  | ok secret =>
      change derivation p length secret info >>= _ = _ at he
      -- the exchange went through, so it is the length or a missing primitive
      cases hderivation : derivation p length secret info with
      | error e' =>
          rw [hderivation] at he
          cases he
          rcases derivation_eq_error h hderivation with ⟨hinside, rfl⟩ | ⟨houtside, hshown⟩
          · exact .inl ⟨rfl, fun _ => hinside⟩
          · exact .inr ⟨hshown, ⟨secret, rfl⟩, houtside⟩
      | ok key =>
          rw [hderivation] at he
          have hinside := ((derivation_eq_ok_iff h).1 hderivation).1
          have hlast : FailsOnly (fun e => e = .missing .sha256)
              (requireDigest p >>= fun _ => pure key) :=
            (requireDigest_failsOnly p).bind fun _ _ => .ok _
          exact .inl ⟨by rw [hlast e he]; rfl, fun _ => hinside⟩

/-! ## Both sides -/

theorem Matched.sharedSecret_eq {A B : KeyPair} (h : Matched A B) :
    sharedSecret (.privateKey A.secret 0) (.publicKey B.publicKey)
      = sharedSecret (.privateKey B.secret 0) (.publicKey A.publicKey) := by
  cases h with
  | exchanged a b law =>
      unfold sharedSecret x25519Pair
      dsimp only
      rw [law]
  | unsupported u v => rfl

/-- **An exchange fails with an error of the library.** -/
theorem Matched.sharedSecret_failsOnly {A B : KeyPair} (h : Matched A B) :
    FailsOnly (fun e => e.family? = some .cryptographic)
      (sharedSecret (.privateKey A.secret 0) (.publicKey B.publicKey)) := by
  cases h with
  | exchanged a b _ =>
      unfold sharedSecret x25519Pair
      dsimp only
      split
      · exact .error rfl
      · exact .ok _
  | unsupported u v => exact .error rfl

theorem Matched.exists_rawKeys {A B : KeyPair} (h : Matched A B) :
    ∃ u v, A.publicKey = .x25519 u ∧ B.publicKey = .x25519 v := by
  cases h with
  | exchanged a b _ => exact ⟨_, _, rfl, rfl⟩
  | unsupported u v => exact ⟨u, v, rfl, rfl⟩

/-- **What one side sends with, the other receives with**, on a platform that lacks any primitives,
for any length that is null or a number. Both sides derive one and the same key, which is as long as
was asked for, or both fail with one and the same error. They derive a key exactly if the exchange
succeeds, the length is in its range and the platform has the hashes; an error is one of the
library, unless the exchange succeeds and the length is out of range. -/
theorem directional_keys_agree (p : Platform) {A B : KeyPair} (h : Matched A B) (mA mB : Mark)
    {length : Value} {n : Int} (hn : lengthOf? length = some n) :
    let exchange := sharedSecret (.privateKey A.secret 0) (.publicKey B.publicKey)
    let inRange := 1 ≤ n ∧ n ≤ 8160
    ∃ outcome : Except Error Bytes,
      (directionalKeyOf p .send (.keyPair A mA) (.publicKey B.publicKey) length).result = outcome ∧
      (directionalKeyOf p .receive (.keyPair B mB) (.publicKey A.publicKey) length).result
        = outcome ∧
      (∀ key, outcome = .ok key → (key.length : Int) = n) ∧
      ((∃ key, outcome = .ok key) ↔ (∃ secret, exchange = .ok secret) ∧ inRange ∧
        .hkdf ∉ p.missing ∧ (p.threshold ≤ Level.debug → .sha256 ∉ p.missing)) ∧
      ∀ e, outcome = .error e →
        e.family? = some .cryptographic ∧ ((∃ secret, exchange = .ok secret) → inRange) ∨
        e.faultClass? = some .value ∧ (∃ secret, exchange = .ok secret) ∧ ¬ inRange := by
  intro exchange inRange
  obtain ⟨s, pubA⟩ := A
  obtain ⟨t, pubB⟩ := B
  obtain ⟨u, v, hu, hv⟩ := h.exists_rawKeys
  obtain rfl : pubA = .x25519 u := hu
  obtain rfl : pubB = .x25519 v := hv
  -- both sides derive from the same secret and the same pair of keys, device first
  have hsame : exchange = sharedSecret (.privateKey t 0) (.publicKey (.x25519 u)) :=
    h.sharedSecret_eq
  refine ⟨outcome p exchange u.bytes v.bytes length, result_directionalKeyOf hn .send s u v mA, ?_,
    fun key hkey => ?_, ⟨fun ⟨key, hkey⟩ => ?_, fun ⟨⟨secret, hsecret⟩, hinside, hhkdf, hsha⟩ => ?_⟩,
    fun e he => ?_⟩
  · rw [hsame]
    exact result_directionalKeyOf hn .receive t v u mB
  · obtain ⟨_, _, -, -, ⟨hinside, -, rfl⟩, -⟩ := (outcome_eq_ok_iff hn).1 hkey
    rw [Hash.Hkdf.length_derive]
    omega
  · obtain ⟨_, secret, -, hsecret, ⟨hinside, hhkdf, -⟩, hdigest⟩ := (outcome_eq_ok_iff hn).1 hkey
    exact ⟨⟨secret, hsecret⟩, hinside, hhkdf, requireDigest_eq_ok_iff.1 hdigest⟩
  · obtain ⟨info, hinfo⟩ := exists_contextOfKeys p u.bytes v.bytes
    exact ⟨_, (outcome_eq_ok_iff hn).2 ⟨info, secret, hinfo, hsecret, ⟨hinside, hhkdf, rfl⟩,
      requireDigest_eq_ok_iff.2 hsha⟩⟩
  · rcases outcome_eq_error hn h.sharedSecret_failsOnly he with hreported | ⟨⟨_, rfl⟩, hlength⟩
    · exact .inl hreported
    · exact .inr ⟨rfl, hlength⟩

/-- Two pairs of other private keys, and no length: both sides derive the same sixteen bytes. -/
theorem directional_keys_agree_sixteen :
    let a : RawKey := ⟨Bytes.zeros 32, rfl⟩
    let b : RawKey := ⟨List.replicate 32 0xff, rfl⟩
    ∃ key,
      (directionalKeyOf {} .send (.keyPair (x25519Pair a) 0) (.publicKey (.x25519 b.x25519Public))
        .null).result = .ok key ∧
      (directionalKeyOf {} .receive (.keyPair (x25519Pair b) 0)
        (.publicKey (.x25519 a.x25519Public)) .null).result = .ok key ∧ key.length = 16 := by
  intro a b
  have law : X25519.shared a.bytes b.x25519Public.bytes
      = X25519.shared b.bytes a.x25519Public.bytes := by decide +kernel
  have hnonzero : (X25519.shared a.bytes b.x25519Public.bytes).all (· == 0) = false := by
    decide +kernel
  obtain ⟨outcome, hsent, hreceived, hlength, hkey, -⟩ :=
    directional_keys_agree {} (.exchanged a b law) 0 0 (show lengthOf? .null = some 16 from rfl)
  have hsecret := sharedSecret_eq_ok_iff.2 ⟨a, 0, b.x25519Public, rfl, rfl, rfl, hnonzero⟩
  obtain ⟨key, rfl⟩ := hkey.2 ⟨⟨_, hsecret⟩, by decide, by decide, by decide⟩
  exact ⟨key, hsent, hreceived, by have := hlength key rfl; omega⟩

end Agreement

end DeviceTrust
