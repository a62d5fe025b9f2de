import DeviceTrust.Operation
import DeviceTrust.Proofs.Key.Agreement
import DeviceTrust.Proofs.Payload

/-!
# What the log level can change

An operation writes log records on the way, and the level decides which of them are kept. Results do
not depend on it (`LevelFree`), with one exception: the record of a directional key names the digest
of the peer's key, which is computed only if the record is kept. On a platform without the digest a
key that was derived is lost for its own record (`Operation.LosesKey`), and this is all that the level
can change (`result_eq_iff`).
-/

set_option autoImplicit false

namespace DeviceTrust

def Platform.atLevel (p : Platform) (t : Level) : Platform := { p with threshold := t }

/-! ## Results that do not depend on the level -/

/-- **The result does not depend on the log level**: two runs on platforms that differ in nothing else
have the same one. -/
def LevelFree {α : Type} (f : Platform → Traced α) : Prop :=
  ∀ (p : Platform) (t t' : Level), (f (p.atLevel t)).result = (f (p.atLevel t')).result

namespace LevelFree

variable {α β : Type}

theorem lift {x : Platform → Except Error α}
    (h : ∀ (p : Platform) (t t' : Level), x (p.atLevel t) = x (p.atLevel t')) :
    LevelFree fun p => (liftM (x p) : Traced α) := h

theorem const (x : Except Error α) : LevelFree fun _ => (liftM x : Traced α) := fun _ _ _ => rfl

theorem log (level : Level) (logger message : String) :
    LevelFree fun p => p.log level logger message := fun _ _ _ => rfl

theorem fail (e : Error) : LevelFree fun _ => (Traced.fail e : Traced α) := fun _ _ _ => rfl

theorem pure (a : α) : LevelFree fun _ => (Pure.pure a : Traced α) := fun _ _ _ => rfl

theorem bind {f : Platform → Traced α} {g : Platform → α → Traced β} (hf : LevelFree f)
    (hg : ∀ a, LevelFree fun p => g p a) : LevelFree fun p => f p >>= g p := by
  intro p t t'
  rw [Traced.result_bind, Traced.result_bind, hf p t t']
  exact bind_congr fun a => hg a p t t'

theorem mapError {f : Platform → Traced α} (hf : LevelFree f) (e : Error → Error) :
    LevelFree fun p => (f p).mapError e := by
  intro p t t'
  rw [Traced.result_mapError, Traced.result_mapError, hf p t t']

end LevelFree

/-! ## The operations that write records -/

theorem Provider.levelFree_verify (pr : Provider) (m : SignedMessage) (key : Value) :
    LevelFree fun p => pr.verify p m key := by
  unfold Provider.verify
  refine .bind (.const _) fun a => .bind (.const _) fun s => .bind (.const _) fun k => ?_
  refine .bind (.lift fun _ _ _ => rfl) fun pub => .bind (.const _) fun data => ?_
  refine .bind (.const _) fun valid => ?_
  cases valid with
  | true => exact .pure true
  | false => exact .bind (.log _ _ _) fun _ => .pure false

namespace Certificate

theorem levelFree_signPublicKey (pr : Provider) (signingKey target : Value) :
    LevelFree fun p => signPublicKey p pr signingKey target := by
  unfold signPublicKey
  refine .bind (.lift fun _ _ _ => rfl) fun payload => .bind (.lift fun _ _ _ => rfl) fun m => ?_
  exact .bind (.const _) fun algorithm => .bind (.log _ _ _) fun _ => .pure m

theorem levelFree_checkExpected (m : SignedMessage) (expected : Value) :
    LevelFree fun p => checkExpected p m expected := by
  unfold checkExpected
  refine .bind (.const _) fun certified => .bind (.lift fun _ _ _ => rfl) fun k => ?_
  refine .bind (.const _) fun _ => .bind (.const _) fun _ => ?_
  cases (certified.get .x).same (k.get .x) with
  | true => exact .pure ()
  | false => exact .bind (.log _ _ _) fun _ => .fail _

theorem levelFree_verify (pr : Provider) (verifying candidate expected : Value) :
    LevelFree fun p => verify p pr verifying candidate expected := by
  unfold verify
  refine .bind (.const _) fun m => .bind (.const _) fun root => .bind (.const _) fun k => ?_
  refine .bind ((pr.levelFree_verify m k.toValue).mapError reworded) fun valid => ?_
  cases valid with
  | false => exact .pure false
  | true =>
      cases expected with
      | null => exact .pure true
      | _ => exact .bind (levelFree_checkExpected m _) fun _ => .pure true

end Certificate

namespace Chain

theorem levelFree_validate (pr : Provider) (chain : Value) :
    LevelFree fun p => validate p pr chain := by
  have hlink : ∀ root device, LevelFree fun p => linkHolds p pr root device := by
    intro root device
    unfold linkHolds
    exact .bind (.const _) fun k => .bind (.const _) fun m => pr.levelFree_verify m k.toValue
  unfold validate
  refine .bind (.const _) fun items => ?_
  rcases items with _ | ⟨root, _ | ⟨device, _ | ⟨x, rest⟩⟩⟩
  case cons.cons.nil =>
    refine .bind ((hlink root device).mapError reworded) fun valid => ?_
    cases valid with
    | true => exact .pure true
    | false => exact .bind (.log _ _ _) fun _ => .pure false
  all_goals exact .bind (.log _ _ _) fun _ => .fail _

theorem levelFree_build (pr : Provider) (root device published : Value) :
    LevelFree fun p => build p pr root device published := by
  have hrest : ∀ v, LevelFree fun p => (do
      let rootKey ← CoseKey.ofValue p v
      let certificate ← Certificate.signPublicKey p pr root device
      let tagged ← certificate.toTagged
      return [.map .plain rootKey.parameters, tagged] : Traced (List Value)) := by
    intro v
    refine .bind (.lift fun _ _ _ => rfl) fun k => ?_
    refine .bind (Certificate.levelFree_signPublicKey pr root device) fun m => ?_
    exact .bind (.const _) fun tagged => .pure _
  unfold build
  cases published with
  | null => exact .bind (.const _) hrest
  | _ => exact .bind (.pure _) hrest

end Chain

theorem Payload.levelFree_decrypt (ciphertext aad key nonce : Value) :
    LevelFree fun p => decrypt p ciphertext aad key nonce := by
  intro p t t'
  simp only [result_decrypt]
  rfl

/-! ## Directional keys -/

namespace Agreement

theorem requireDigest_atLevel_warning (p : Platform) :
    requireDigest (p.atLevel Level.warning) = .ok () := rfl

/-- The steps before the record are the same at every level. -/
theorem result_directionalKey_atLevel (p : Platform) (t : Level) (d : Direction) (own : KeyPair)
    (peer : PublicKey) (length? : Option Int) :
    (directionalKey (p.atLevel t) d own peer length?).result = (do
      let key ← (directionalKey (p.atLevel Level.warning) d own peer length?).result
      requireDigest (p.atLevel t)
      return key) := by
  simp only [directionalKey_eq, Traced.result_bind, Traced.result_lift, result_logDerived,
    requireDigest_atLevel_warning]
  have hcontext : ∀ t, d.context (p.atLevel t) own.publicKey peer = d.context p own.publicKey peer :=
    fun _ => rfl
  rw [hcontext, hcontext]
  cases d.context p own.publicKey peer with
  | error e => rfl
  | ok info =>
      cases sharedSecret (.privateKey own.secret 0) (.publicKey peer) with
      | error e => rfl
      | ok secret =>
          show (p.derive secret _ info none >>= _) = ((p.derive secret _ info none >>= _) >>= _)
          cases p.derive secret (length?.getD Parameters.derivedKeyLength) info none with
          | error e => rfl
          | ok key => rfl

/-- **What the record of a derived key costs.** At any level the outcome is that of a run which keeps
no record, and if there is a key, the digest for the record is asked for. -/
theorem result_directionalKeyOf_atLevel (p : Platform) (t : Level) (d : Direction)
    (own peer length : Value) :
    (directionalKeyOf (p.atLevel t) d own peer length).result = (do
      let key ← (directionalKeyOf (p.atLevel Level.warning) d own peer length).result
      requireDigest (p.atLevel t)
      return key) := by
  unfold directionalKeyOf
  simp only [Traced.result_bind, Traced.result_lift]
  cases hkeys : d.requireKeys own peer with
  | error e => rfl
  | ok _ =>
      obtain ⟨pair, mark, k, rfl, rfl⟩ := Direction.exists_keys_of_requireKeys hkeys
      cases hlength : requestedLength? length with
      | some l => exact result_directionalKey_atLevel p t d pair k l
      | none =>
          -- no key is derived, so there is nothing to record
          simp only [traced_withSecret_held, Traced.result_lift]
          cases sharedSecret (.privateKey pair.secret 0) (.publicKey k) with
          | error e => rfl
          | ok secret =>
              show p.deriveOf (.buffer secret) length (.bytes []) .null
                = p.deriveOf (.buffer secret) length (.bytes []) .null >>= _
              cases hkey : p.deriveOf (.buffer secret) length (.bytes []) .null with
              | error e => rfl
              | ok key => exact absurd hkey (deriveOf_ne_ok p hlength _ _ _ key)

/-- A run that keeps no record derives a key of the usual length from every exchange that succeeds,
digest or not. -/
theorem exists_key_of_sharedSecret {p : Platform} (hp : .hkdf ∉ p.missing) (d : Direction)
    {s : PrivateKey} (u : RawKey) {v : RawKey} (mark : Mark) {secret : Bytes}
    (h : sharedSecret (.privateKey s 0) (.publicKey (.x25519 v)) = .ok secret) :
    ∃ key, (directionalKeyOf (p.atLevel Level.warning) d (.keyPair ⟨s, .x25519 u⟩ mark)
      (.publicKey (.x25519 v)) .null).result = .ok key := by
  have hlength : lengthOf? .null = some 16 := rfl
  obtain ⟨info, hinfo⟩ := exists_contextOfKeys (p.atLevel Level.warning)
    (d.places u v).1.bytes (d.places u v).2.bytes
  refine ⟨_, (result_directionalKeyOf hlength d s u v mark).trans ((outcome_eq_ok_iff hlength).2
    ⟨info, secret, hinfo, h, ⟨by decide, hp, rfl⟩, requireDigest_atLevel_warning p⟩)⟩

theorem requireDigest_atLevel {p : Platform} (h : .sha256 ∈ p.missing) (t : Level) :
    requireDigest (p.atLevel t)
      = if t ≤ Level.debug then .error (.missing .sha256) else .ok () := by
  have hrequire : (p.atLevel t).require .sha256 = .error (.missing .sha256) :=
    Platform.require_of_missing h
  unfold requireDigest
  rw [hrequire]
  rfl

/-- **When the level changes the outcome of a directional key**: the digest is missing, there is a
key, and one of the two levels keeps the record while the other does not. -/
theorem result_directionalKeyOf_eq_iff (p : Platform) (t t' : Level) (d : Direction)
    (own peer length : Value) :
    (directionalKeyOf (p.atLevel t) d own peer length).result
        = (directionalKeyOf (p.atLevel t') d own peer length).result ↔
      (.sha256 ∈ p.missing ∧
          (∃ key, (directionalKeyOf (p.atLevel Level.warning) d own peer length).result = .ok key) →
        (t ≤ Level.debug ↔ t' ≤ Level.debug)) := by
  rw [result_directionalKeyOf_atLevel p t, result_directionalKeyOf_atLevel p t']
  -- at warning nothing is digested: what the other levels add is the digest after a derived key
  cases (directionalKeyOf (p.atLevel Level.warning) d own peer length).result with
  | error e =>
      constructor
      · rintro - ⟨-, _, ⟨⟩⟩
      · intro _
        rfl
  | ok key =>
      by_cases hmissing : .sha256 ∈ p.missing
      · show (requireDigest (p.atLevel t) >>= fun _ => pure key)
          = (requireDigest (p.atLevel t') >>= fun _ => pure key) ↔ _
        rw [requireDigest_atLevel hmissing, requireDigest_atLevel hmissing]
        by_cases ht : t ≤ Level.debug
        · by_cases ht' : t' ≤ Level.debug
          · simp [ht, ht']
          · simp [ht, ht', hmissing]
        · by_cases ht' : t' ≤ Level.debug
          · simp [ht, ht', hmissing]
          · simp [ht, ht']
      · have hdigest : ∀ s, requireDigest (p.atLevel s) = .ok () := fun s =>
          requireDigest_eq_ok_iff.2 fun _ => hmissing
        rw [hdigest, hdigest]
        simp [hmissing]

end Agreement

/-! ## All operations -/

namespace Operation

variable {α : Type}

/-- **A key that can be lost for its own record**: one that is derived on a platform without the
digest that the record names. -/
def LosesKey (p : Platform) : Operation α → Prop
  | directionalKey d own peer length => .sha256 ∈ p.missing ∧
      ∃ key, (Agreement.directionalKeyOf (p.atLevel Level.warning) d own peer length).result = .ok key
  | _ => False

/-- **What the log level can change.** Two runs of one operation on platforms that differ in the log
level only have the same result, with one exception: a directional key is derived on a platform
without the digest, and of the two levels one keeps debug records and the other does not. Then one
run gives the key and the other fails. -/
theorem result_eq_iff (p : Platform) (op : Operation α) (t t' : Level) :
    (op.run (p.atLevel t)).result = (op.run (p.atLevel t')).result ↔
      (op.LosesKey p → (t ≤ Level.debug ↔ t' ≤ Level.debug)) := by
  have hfree : LevelFree (fun q => op.run q) → ¬ op.LosesKey p →
      ((op.run (p.atLevel t)).result = (op.run (p.atLevel t')).result ↔
        (op.LosesKey p → (t ≤ Level.debug ↔ t' ≤ Level.debug))) := fun hop hkeeps =>
    ⟨fun _ hloses => absurd hloses hkeeps, fun _ => hop p t t'⟩
  cases op with
  | directionalKey d own peer length =>
      exact Agreement.result_directionalKeyOf_eq_iff p t t' d own peer length
  -- the other operations that write records
  | decrypt ciphertext aad key nonce =>
      exact hfree (Payload.levelFree_decrypt ciphertext aad key nonce) id
  | verify pr message key => exact hfree (pr.levelFree_verify message key) id
  | certify pr signingKey target =>
      exact hfree (Certificate.levelFree_signPublicKey pr signingKey target) id
  | verifyCertificate pr verifying candidate expected =>
      exact hfree (Certificate.levelFree_verify pr verifying candidate expected) id
  | validateChain pr chain => exact hfree (Chain.levelFree_validate pr chain) id
  | buildChain pr root device published =>
      exact hfree (Chain.levelFree_build pr root device published) id
  -- the rest do not look at the level
  | _ => exact hfree (.lift fun _ _ _ => rfl) id

/-- Two key pairs on a platform without the digest: the key is derived at the level of warnings and
lost at that of debug records. -/
theorem result_directionalKey_lost :
    let a : RawKey := ⟨Bytes.zeros 32, rfl⟩
    let b : RawKey := ⟨List.replicate 32 0xff, rfl⟩
    let op : Operation Bytes := .directionalKey .send (.keyPair (Agreement.x25519Pair a) 0)
      (.publicKey (.x25519 b.x25519Public)) .null
    (∃ key, (op.run { missing := [.sha256], threshold := Level.warning }).result = .ok key) ∧
      (op.run { missing := [.sha256], threshold := Level.debug }).result
        = .error (.missing .sha256) := by
  intro a b op
  have hnonzero : (X25519.shared a.bytes b.x25519Public.bytes).all (· == 0) = false := by
    decide +kernel
  have hsecret : Agreement.sharedSecret (.privateKey (.x25519 a) 0)
      (.publicKey (.x25519 b.x25519Public)) = .ok (X25519.shared a.bytes b.x25519Public.bytes) :=
    Agreement.sharedSecret_eq_ok_iff.2 ⟨_, _, _, rfl, rfl, rfl, hnonzero⟩
  let p : Platform := { missing := [.sha256] }
  obtain ⟨key, hkey⟩ := Agreement.exists_key_of_sharedSecret (p := p) (by decide) .send
    a.x25519Public 0 hsecret
  refine ⟨⟨key, hkey⟩, ?_⟩
  -- with the record kept, the same run asks for the digest once it has the key
  show (Agreement.directionalKeyOf (p.atLevel Level.debug) .send
    (.keyPair ⟨.x25519 a, .x25519 a.x25519Public⟩ 0) (.publicKey (.x25519 b.x25519Public))
    .null).result = _
  rw [Agreement.result_directionalKeyOf_atLevel, hkey]
  rfl

end Operation

end DeviceTrust
