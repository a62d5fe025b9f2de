import DeviceTrust.Cose.Provider
import DeviceTrust.Proofs.Cose.Forms
import DeviceTrust.Proofs.Cose.Key
import DeviceTrust.Proofs.Key.Reading

/-!
# The algorithm binds the key

Which suite verifies a message is decided by its protected header alone, and the key must go along:
it may leave its algorithm out, but not name another one, and it must be a key of the suite
(`Provider.verify_eq_ok_iff`). The answer is then that of the suite's primitive on the bytes that
the signature covers (`SignedMessage.sigStructure`). Whatever does not fit is refused with an error
of the library.

The three conditions are relations of their own: `Header.Names`, `CoseKey.Allows` and `Suite.Reads`.
-/

set_option autoImplicit false

namespace DeviceTrust

/-! ## What is signed -/

/-- The bytes that a signature covers: an array of the fixed text, the protected header, the
external data and the payload. -/
def SignedMessage.sigStructure (header external payload : Bytes) : Bytes :=
  0x84 :: (Cbor.encodeText Parameters.signatureContext ++ Cbor.encodeBytes header
    ++ Cbor.encodeBytes external ++ Cbor.encodeBytes payload)

theorem SignedMessage.signedBytes_bytes (header external payload : Bytes) :
    signedBytes (.bytes header) (.bytes payload) (.bytes external)
      = .ok (sigStructure header external payload) := by
  have harray : Cbor.head 4 4 = [0x84] := rfl
  simp [signedBytes, signedValue, Cbor.encode?, Cbor.encodeItems?, harray, sigStructure]

/-! ## The header -/

/-- **The header names an algorithm**: it is the encoding of a map with an integer under the label
of algorithms. -/
def Header.Names (header : Bytes) (a : Int) : Prop :=
  ∃ es v, Cbor.EncodesMap header es ∧ es.find? (.int Parameters.algorithmLabel) = some v ∧
    v.int? = some a

theorem Header.names_unique {header : Bytes} {a a' : Int} (h : Names header a)
    (h' : Names header a') : a = a' := by
  obtain ⟨es, v, ⟨_, hes⟩, hv, ha⟩ := h
  obtain ⟨es', v', ⟨_, hes'⟩, hv', ha'⟩ := h'
  rw [hes] at hes'
  cases hes'
  rw [hv] at hv'
  cases hv'
  exact Option.some_inj.1 (ha.symm.trans ha')

namespace SignedMessage

theorem algorithm_eq_ok_iff (header : Bytes) (u q s : Value) {a : Int} :
    (∃ v, algorithm ⟨.bytes header, u, q, s⟩ = .ok v ∧ v.int? = some a) ↔
      Header.Names header a := by
  constructor
  · rintro ⟨v, hv, ha⟩
    obtain ⟨es, hes, hv⟩ := bind_eq_ok.1 hv
    cases hv
    cases hf : es.find? (.int Parameters.algorithmLabel) with
    | none => simp [Header.algorithm, hf, Value.int?] at ha
    | some v =>
        simp only [Header.algorithm, hf, Option.getD_some] at ha
        -- a header without bytes has no entries, and so names nothing
        rcases Header.encodesMap_of_decode hes with ⟨-, rfl⟩ | hmap
        · cases hf
        · exact ⟨es, v, hmap, hf, ha⟩
  · rintro ⟨es, v, hmap, hf, ha⟩
    refine ⟨v, bind_eq_ok.2 ⟨es, Header.decode_of_encodesMap hmap, ?_⟩, ha⟩
    simp only [Header.algorithm, hf, Option.getD_some]
    rfl

theorem algorithm_failsOnly (header : Bytes) (u q s : Value) :
    FailsOnly IsDeserialization (algorithm ⟨.bytes header, u, q, s⟩) :=
  (Header.decode_failsOnly header).bind fun _ _ => .ok _

end SignedMessage

/-! ## Suites -/

theorem Suite.number_injective {s s' : Suite} (h : s.number = s'.number) : s = s' := by
  cases s <;> cases s' <;> first | rfl | cases h

/-- Where at most one suite qualifies, it is found in whatever place, and however often it is there. -/
theorem Suite.find?_eq_some_iff {q : Suite → Bool}
    (hq : ∀ s s', q s = true → q s' = true → s = s') {l : List Suite} {s : Suite} :
    l.find? q = some s ↔ s ∈ l ∧ q s = true := by
  constructor
  · intro h
    exact ⟨List.mem_of_find?_eq_some h, List.find?_some h⟩
  · rintro ⟨hmem, hs⟩
    cases h : l.find? q with
    | none => exact absurd hs (List.find?_eq_none.1 h s hmem)
    | some s' => rw [hq s' s (List.find?_some h) hs]

theorem Suite.eq_of_number_beq {n : Int} (s s' : Suite) (h : (s.number == n) = true)
    (h' : (s'.number == n) = true) : s = s' :=
  number_injective ((beq_iff_eq.1 h).trans (beq_iff_eq.1 h').symm)

theorem Provider.get_eq_ok_iff {pr : Provider} {v : Value} {s : Suite} :
    pr.get v = .ok s ↔ s ∈ pr.suites ∧ v.int? = some s.number := by
  have hfind : pr.get v = .ok s ↔
      (v.int?.bind fun n => pr.suites.find? fun s => s.number == n) = some s := by
    unfold get
    split <;> simp [*]
  simp only [hfind, Option.bind_eq_some_iff, Suite.find?_eq_some_iff Suite.eq_of_number_beq,
    beq_iff_eq]
  constructor
  · rintro ⟨n, hn, hmem, rfl⟩
    exact ⟨hmem, hn⟩
  · rintro ⟨hmem, hn⟩
    exact ⟨s.number, hn, hmem, rfl⟩

theorem Provider.get_failsOnly (pr : Provider) (v : Value) : FailsOnly IsReported (pr.get v) := by
  unfold get
  split
  · exact .ok _
  · exact .error rfl

/-- **The key may serve an algorithm**: it names none, or this one. -/
def CoseKey.Allows (k : CoseKey) (a : Int) : Prop :=
  k.find? (.int KeyLabel.alg.number) = none ∨
    ∃ v, k.find? (.int KeyLabel.alg.number) = some v ∧ v.int? = some a

/-- **The verification key of a suite in a structured key**, whatever algorithm it names. -/
inductive Suite.Reads : Suite → CoseKey → PublicKey → Prop
  | eddsa {k : CoseKey} {raw : RawKey} (h : k.HoldsRaw .ed25519 raw) :
      Reads .eddsa k (.ed25519 raw)
  | es256 {k : CoseKey} {x y : Nat} (h : k.HoldsPoint x y) : Reads .es256 k (.p256 x y)

/-- Whether a signature of some bytes is valid under a public key, by the primitive of the key. -/
def PublicKey.accepts (k : PublicKey) (data signature : Bytes) : Bool :=
  match k with
  | ed25519 k => Ed25519.verify k.bytes signature data
  | p256 x y => Ecdsa.verifyBytes x y data signature
  | x25519 _ | p384 _ _ => false

theorem Ecdsa.verifyBytes_of_not_isWellFormed {signature : Bytes}
    (h : isWellFormed signature = false) (x y : Nat) (data : Bytes) :
    verifyBytes x y data signature = false := by
  unfold isWellFormed at h
  unfold verifyBytes
  cases hs : split? signature with
  | none => rfl
  | some rs =>
      obtain ⟨r, s⟩ := rs
      rw [hs] at h
      have hzero : r = 0 ∨ s = 0 := by
        by_cases hr : r = 0
        · exact .inl hr
        · exact .inr (by simpa [hr] using h)
      rcases hzero with rfl | rfl <;> simp [verify]

theorem Ecdsa.not_isWellFormed_of_length_ne {signature : Bytes} (h : signature.length ≠ 64) :
    isWellFormed signature = false := by
  simp [isWellFormed, split?, h]

namespace Suite

variable {p : Platform} {s : Suite} {k : CoseKey} {pub : PublicKey}

/-- **The verification of a signature on P-256**: the two checks before the primitive refuse nothing
that the primitive accepts. -/
theorem es256_verify_bytes (data signature : Bytes) (x y : Nat) :
    es256.verify (.bytes data) (.bytes signature) (.publicKey (.p256 x y))
      = .ok (Ecdsa.verifyBytes x y data signature) := by
  show (if signature.length ≠ 64 then .ok false
    else if !Ecdsa.isWellFormed signature then .ok false
    else .ok (Ecdsa.verifyBytes x y data signature)) = Except.ok _
  by_cases hlength : signature.length ≠ 64
  · rw [if_pos hlength, Ecdsa.verifyBytes_of_not_isWellFormed
      (Ecdsa.not_isWellFormed_of_length_ne hlength)]
  · rw [if_neg hlength]
    cases hform : Ecdsa.isWellFormed signature with
    | true => rfl
    | false => rw [Ecdsa.verifyBytes_of_not_isWellFormed hform]; rfl

theorem verify_of_reads (h : s.Reads k pub) (data signature : Bytes) :
    s.verify (.bytes data) (.bytes signature) (.publicKey pub)
      = .ok (pub.accepts data signature) := by
  cases h with
  | eddsa => rfl
  | @es256 _ x y => exact es256_verify_bytes data signature x y

/-! ## The default algorithm -/

theorem withDefaultAlgorithm_of_find?_eq_some {v : Value}
    (h : k.find? (.int KeyLabel.alg.number) = some v) : s.withDefaultAlgorithm k = k := by
  simp [withDefaultAlgorithm, h]

theorem withDefaultAlgorithm_of_find?_eq_none (h : k.find? (.int KeyLabel.alg.number) = none) :
    s.withDefaultAlgorithm k
      = .new (k.parameters ++ [(.int KeyLabel.alg.number, .int s.number)]) := by
  have hinsert := Entries.insert_of_find?_eq_none h (.int s.number)
  simp only [withDefaultAlgorithm, h, hinsert]

theorem get_withDefaultAlgorithm (hk : k.Normal) {label : KeyLabel} (h : label ≠ .alg) :
    (s.withDefaultAlgorithm k).get label = k.get label := by
  cases hf : k.find? (.int KeyLabel.alg.number) with
  | some v => rw [withDefaultAlgorithm_of_find?_eq_some hf]
  | none =>
      rw [withDefaultAlgorithm_of_find?_eq_none hf,
        CoseKey.get_added hk (List.append_nil _).symm hf, if_neg h]

/-- With the default, a key names the algorithm of the suite exactly if it may serve it. -/
theorem algorithm_withDefaultAlgorithm (hk : k.Normal) :
    ((s.withDefaultAlgorithm k).get .alg).int? = some s.number ↔ k.Allows s.number := by
  cases hf : k.find? (.int KeyLabel.alg.number) with
  | some v =>
      rw [withDefaultAlgorithm_of_find?_eq_some hf]
      simp [CoseKey.Allows, CoseKey.get, hf]
  | none =>
      rw [withDefaultAlgorithm_of_find?_eq_none hf,
        CoseKey.get_added hk (List.append_nil _).symm hf, if_pos rfl]
      simp [CoseKey.Allows, hf, Value.int?]

def primitive : Suite → Primitive
  | eddsa => .ed25519Public | es256 => .p256Public

theorem publicKeyOf_eq_ok_iff_withDefault : s.publicKeyOf p k = .ok pub ↔
    s.primitive ∉ p.missing ∧ ((s.withDefaultAlgorithm k).get .alg).int? = some s.number ∧
      s.Reads (s.withDefaultAlgorithm k) pub := by
  cases s with
  | eddsa =>
      refine CoseKey.toRawKey_eq_ok_iff.trans
        (and_congr_right fun _ => and_congr_right fun _ => ⟨?_, ?_⟩)
      · rintro ⟨raw, h, rfl⟩
        exact .eddsa h
      · intro h
        cases h with
        | eddsa h => exact ⟨_, h, rfl⟩
  | es256 =>
      refine CoseKey.toPoint_eq_ok_iff.trans
        (and_congr_right fun _ => and_congr_right fun _ => ⟨?_, ?_⟩)
      · rintro ⟨x, y, h, rfl⟩
        exact .es256 h
      · intro h
        cases h with
        | es256 h => exact ⟨_, _, h, rfl⟩

/-- Neither the algorithm nor the identifier has a part in what a suite reads. -/
theorem reads_congr {k' : CoseKey}
    (hother : ∀ label, label ≠ .alg → label ≠ .kid → k.get label = k'.get label) :
    s.Reads k pub ↔ s.Reads k' pub := by
  constructor
  · intro h
    cases h with
    | eddsa h => exact .eddsa ((CoseKey.holdsRaw_congr hother).1 h)
    | es256 h => exact .es256 ((CoseKey.holdsPoint_congr hother).1 h)
  · intro h
    cases h with
    | eddsa h => exact .eddsa ((CoseKey.holdsRaw_congr hother).2 h)
    | es256 h => exact .es256 ((CoseKey.holdsPoint_congr hother).2 h)

theorem reads_withDefaultAlgorithm (hk : k.Normal) :
    s.Reads (s.withDefaultAlgorithm k) pub ↔ s.Reads k pub :=
  reads_congr fun _ h _ => get_withDefaultAlgorithm hk h

/-- **The reader of a suite**: the key may serve the algorithm and holds a key of the suite. -/
theorem publicKeyOf_eq_ok_iff (hp : p.missing = []) (hk : k.Normal) :
    s.publicKeyOf p k = .ok pub ↔ k.Allows s.number ∧ s.Reads k pub := by
  rw [publicKeyOf_eq_ok_iff_withDefault, algorithm_withDefaultAlgorithm hk,
    reads_withDefaultAlgorithm hk]
  exact and_iff_right (by simp [hp])

theorem publicKeyOf_failsOnly (p : Platform) (s : Suite) (k : CoseKey) :
    FailsOnly IsReported (s.publicKeyOf p k) := by
  cases s with
  | eddsa => exact CoseKey.toRawKey_failsOnly _ _ _
  | es256 => exact CoseKey.toPoint_failsOnly _ _

/-- **What a suite reads** are the registered labels, not that of the secret part, once the algorithm
has its default. -/
theorem publicKeyOf_congr {k' : CoseKey} (h : ∀ label, label ≠ .d →
    ((s.withDefaultAlgorithm k).get label).seen = ((s.withDefaultAlgorithm k').get label).seen) :
    s.publicKeyOf p k = s.publicKeyOf p k' := by
  cases s with
  | eddsa => exact CoseKey.toRawKey_congr h .ed25519
  | es256 => exact CoseKey.toPoint_congr h

/-- A key that names no algorithm is read as if it named the one of the suite, in whatever place
among its parameters. -/
theorem publicKeyOf_added (hk : k.Normal) {before after : Entries}
    (hs : k.parameters = before ++ after) (hnew : k.find? (.int KeyLabel.alg.number) = none) :
    s.publicKeyOf p (.new (before ++ (.int KeyLabel.alg.number, .int s.number) :: after))
      = s.publicKeyOf p k := by
  have hadded := CoseKey.get_added hk hs hnew s.number
  have hnamed : ∃ v, (CoseKey.new (before ++ (.int KeyLabel.alg.number, .int s.number) :: after)).find?
      (.int KeyLabel.alg.number) = some v := by
    have halg := hadded .alg
    rw [if_pos rfl, CoseKey.get] at halg
    refine Option.ne_none_iff_exists'.1 fun hnone => ?_
    rw [hnone] at halg
    cases halg
  obtain ⟨v, hv⟩ := hnamed
  -- by label the two keys are the same, wherever the number stands
  have hsame : ∀ label, (s.withDefaultAlgorithm
      (.new (before ++ (.int KeyLabel.alg.number, .int s.number) :: after))).get label
        = (s.withDefaultAlgorithm k).get label := by
    intro label
    rw [withDefaultAlgorithm_of_find?_eq_some hv, withDefaultAlgorithm_of_find?_eq_none hnew,
      hadded label, CoseKey.get_added hk (List.append_nil _).symm hnew]
  exact publicKeyOf_congr fun label _ => congrArg Value.seen (hsame label)

end Suite

/-! ## Verification -/

namespace Provider

variable {p : Platform} {pr : Provider} {header payload signature : Bytes} {u : Value}
  {k : CoseKey}

/-- The steps of a verification, one after the other, without their records. -/
theorem result_verify (p : Platform) (pr : Provider) (m : SignedMessage) (k : CoseKey) :
    (pr.verify p m k.toValue).result = (do
      let s ← pr.get (← m.algorithm)
      let pub ← s.publicKeyOf p k
      let data ← m.toBeSigned
      (s.verify (.bytes data) m.signature (.publicKey pub)).mapError Error.fault) := by
  unfold verify
  simp only [Traced.result_bind, Traced.result_lift, CoseKey.decode_toValue]
  refine bind_congr fun a => bind_congr fun s => ?_
  show (s.publicKeyOf p k >>= _) = _
  refine bind_congr fun pub => bind_congr fun data => ?_
  -- the record of a signature that does not verify leaves the answer as it is
  cases (s.verify (.bytes data) m.signature (.publicKey pub)).mapError Error.fault with
  | error e => rfl
  | ok valid => cases valid <;> rfl

/-- Verification does with a key what the suites read in it, and nothing else. -/
theorem verify_congr_key {m : SignedMessage} {k' : CoseKey}
    (h : ∀ s : Suite, s.publicKeyOf p k = s.publicKeyOf p k') :
    pr.verify p m k.toValue = pr.verify p m k'.toValue := by
  unfold verify
  refine Traced.bind_congr fun v _ => Traced.bind_congr fun s _ => ?_
  show (liftM (s.publicKeyOf p k) : Traced PublicKey) >>= _ = _
  rw [h s]
  rfl

/-- **When a verification gives an answer, and which**: the header names a suite of the provider,
the key may serve its algorithm and holds a key of the suite, and the answer is that of the suite's
primitive. -/
theorem verify_eq_ok_iff (hp : p.missing = []) (hk : k.Normal) {b : Bool} :
    (pr.verify p ⟨.bytes header, u, .bytes payload, .bytes signature⟩ k.toValue).result = .ok b ↔
      ∃ s ∈ pr.suites, Header.Names header s.number ∧ k.Allows s.number ∧
        ∃ pub, s.Reads k pub ∧
          pub.accepts (SignedMessage.sigStructure header [] payload) signature = b := by
  rw [result_verify]
  constructor
  · intro h
    obtain ⟨a, ha, h⟩ := bind_eq_ok.1 h
    obtain ⟨s, hs, h⟩ := bind_eq_ok.1 h
    obtain ⟨pub, hpub, h⟩ := bind_eq_ok.1 h
    obtain ⟨data, hdata, h⟩ := bind_eq_ok.1 h
    obtain ⟨hmem, hnumber⟩ := get_eq_ok_iff.1 hs
    obtain ⟨hallows, hreads⟩ := (Suite.publicKeyOf_eq_ok_iff hp hk).1 hpub
    have hcovered := hdata.symm.trans (SignedMessage.signedBytes_bytes header [] payload)
    cases hcovered
    rw [Suite.verify_of_reads hreads] at h
    exact ⟨s, hmem, (SignedMessage.algorithm_eq_ok_iff _ _ _ _).1 ⟨a, ha, hnumber⟩, hallows, pub, hreads,
      Except.ok.inj h⟩
  · rintro ⟨s, hmem, hnames, hallows, pub, hreads, rfl⟩
    obtain ⟨a, ha, hnumber⟩ := (SignedMessage.algorithm_eq_ok_iff header u (.bytes payload)
      (.bytes signature)).2 hnames
    refine bind_eq_ok.2 ⟨a, ha, bind_eq_ok.2 ⟨s, get_eq_ok_iff.2 ⟨hmem, hnumber⟩, ?_⟩⟩
    refine bind_eq_ok.2 ⟨pub, (Suite.publicKeyOf_eq_ok_iff hp hk).2 ⟨hallows, hreads⟩, ?_⟩
    refine bind_eq_ok.2 ⟨_, SignedMessage.signedBytes_bytes header [] payload, ?_⟩
    rw [Suite.verify_of_reads hreads]
    rfl

/-- **A verification without an answer fails with an error of the library**, on any platform. -/
theorem verify_failsOnly (p : Platform) (pr : Provider) (header payload signature : Bytes)
    (u : Value) (k : CoseKey) : FailsOnly IsReported
      (pr.verify p ⟨.bytes header, u, .bytes payload, .bytes signature⟩ k.toValue).result := by
  rw [result_verify]
  have halgorithm := (SignedMessage.algorithm_failsOnly header u (.bytes payload)
    (.bytes signature)).mono fun _ => Error.isReported_of_reason?
  refine halgorithm.bind fun a _ => (get_failsOnly pr a).bind fun s _ => ?_
  refine (s.publicKeyOf_failsOnly p k).bind fun pub hpub => ?_
  have hreads := (Suite.publicKeyOf_eq_ok_iff_withDefault.1 hpub).2.2
  -- what the signature covers can be encoded, and the key fits the suite: nothing is left to fail
  have hcovered : SignedMessage.toBeSigned
      ⟨.bytes header, u, .bytes payload, .bytes signature⟩ = .ok _ :=
    SignedMessage.signedBytes_bytes header [] payload
  rw [hcovered]
  show FailsOnly _ ((s.verify _ (.bytes signature) _).mapError Error.fault)
  rw [Suite.verify_of_reads hreads]
  exact .ok _

theorem verify_failsOnly_of_wellFormed (p : Platform) (pr : Provider) {m : SignedMessage}
    (hm : m.WellFormed) (k : CoseKey) : FailsOnly IsReported (pr.verify p m k.toValue).result := by
  cases hm with
  | intro _ => exact verify_failsOnly p pr _ _ _ _ k

/-- **A key that leaves its algorithm out is verified with as if it named the one in the header**,
in whatever place among its parameters. -/
theorem verify_added (p : Platform) (pr : Provider) (hk : k.Normal) {before after : Entries}
    (hs : k.parameters = before ++ after) (hnew : k.find? (.int KeyLabel.alg.number) = none)
    {a : Int} (ha : Header.Names header a) :
    pr.verify p ⟨.bytes header, u, .bytes payload, .bytes signature⟩
        (CoseKey.new (before ++ (.int KeyLabel.alg.number, .int a) :: after)).toValue
      = pr.verify p ⟨.bytes header, u, .bytes payload, .bytes signature⟩ k.toValue := by
  unfold verify
  -- the suite is found by the header alone, before the key is looked at
  refine Traced.bind_congr fun v hv => Traced.bind_congr fun s hs' => ?_
  have hnumber : s.number = a := by
    have hnamed := (SignedMessage.algorithm_eq_ok_iff _ _ _ _).1 ⟨v, hv, (get_eq_ok_iff.1 hs').2⟩
    exact Header.names_unique hnamed ha
  have hread := Suite.publicKeyOf_added (p := p) (s := s) hk hs hnew
  rw [hnumber] at hread
  show (liftM (s.publicKeyOf p _) : Traced PublicKey) >>= _ = _
  rw [hread]
  rfl

/-- **Algorithm binding.** A verification gives an answer exactly if the header names a suite of
the provider, the key may serve the algorithm of that suite, and the key is one of the suite; the
answer is then whether the signature is valid for the covered bytes under this key. Otherwise it
fails with an error of the library. A key that leaves its algorithm out behaves as if it named the
one in the header. -/
theorem verify_binds_algorithm (p : Platform) (hp : p.missing = []) (pr : Provider)
    (header payload signature : Bytes) (u : Value) (es : Entries) :
    let m : SignedMessage := ⟨.bytes header, u, .bytes payload, .bytes signature⟩
    let k := CoseKey.new es
    (∀ b, (pr.verify p m k.toValue).result = .ok b ↔
      ∃ s ∈ pr.suites, Header.Names header s.number ∧ k.Allows s.number ∧
        ∃ pub, s.Reads k pub ∧
          pub.accepts (SignedMessage.sigStructure header [] payload) signature = b) ∧
    (∀ e, (pr.verify p m k.toValue).result = .error e → IsReported e) ∧
    ∀ a before after, Header.Names header a → k.find? (.int KeyLabel.alg.number) = none →
      k.parameters = before ++ after →
        pr.verify p m (CoseKey.new (before ++ (.int KeyLabel.alg.number, .int a) :: after)).toValue
          = pr.verify p m k.toValue := by
  intro m k
  have hk : k.Normal := CoseKey.normal_new es
  refine ⟨fun b => verify_eq_ok_iff hp hk, verify_failsOnly p pr header payload signature u k, ?_⟩
  intro a before after ha hnew hs
  exact verify_added p pr hk hs hnew ha

/-- An Ed25519 key that leaves its algorithm out verifies a signature made with its private key,
and so it does with the algorithm added. -/
theorem verify_binds_algorithm_ed25519 :
    let secret : RawKey := ⟨Bytes.zeros 32, rfl⟩
    let header : Bytes := [0xa1, 0x01, 0x27]
    let signature := Ed25519.sign secret.bytes (SignedMessage.sigStructure header [] [])
    let m : SignedMessage := ⟨.bytes header, .map .plain [], .bytes [], .bytes signature⟩
    let es : Entries := [(.int 1, .int 1), (.int (-1), .int 6),
      (.int (-2), .bytes secret.ed25519Public.bytes)]
    (standard.verify {} m (CoseKey.new es).toValue).result = .ok true ∧
      standard.verify {} m (CoseKey.new ((.int 3, .int (-8)) :: es)).toValue
        = standard.verify {} m (CoseKey.new es).toValue := by
  intro secret header signature m es
  have hlabels : es.labels = [1, -1, -2].map Value.int := rfl
  have hes : CoseKey.new es = ⟨es⟩ :=
    CoseKey.new_eq_of_normal (CoseKey.normal_of_integers hlabels (by decide)
      (by simp [es, Value.plainNumber]))
  have hraw : (CoseKey.new es).HoldsRaw .ed25519 secret.ed25519Public := by
    rw [hes]
    constructor <;> simp [es, KeyLabel.number] <;> rfl
  have halg : (CoseKey.new es).find? (.int KeyLabel.alg.number) = none := by
    simp [hes, es, KeyLabel.number]
  have hnames : Header.Names header (-8) := by
    refine ⟨[(.int 1, .int (-8))], .int (-8), ⟨.plain, rfl⟩, ?_, rfl⟩
    exact if_pos (Value.int_agrees_int.2 rfl)
  have hbinds := verify_binds_algorithm {} rfl standard header [] signature (.map .plain []) es
  refine ⟨(hbinds.1 true).2 ⟨.eddsa, by decide, hnames, .inl halg, .ed25519 secret.ed25519Public,
    .eddsa hraw, ?_⟩, hbinds.2.2 (-8) [] es hnames halg (congrArg CoseKey.parameters hes)⟩
  set_option maxRecDepth 100000 in
  decide +kernel

end Provider

end DeviceTrust
