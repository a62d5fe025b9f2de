import DeviceTrust.Operation
import DeviceTrust.Proofs.Key.Agreement
import DeviceTrust.Proofs.Key.Identifier
import DeviceTrust.Proofs.Payload.Failures

/-!
# Log records do not depend on secrets

The operations that handle secrets write little: a derived key is logged with its direction, its
length and the peer's identifier, a certificate with its algorithm, a decryption only that it
failed, and an encryption nothing. So what they write is told by their public arguments, the log
level and whether there is a result (`Traced.Writes`), and two runs that differ in secrets only
(`Operation.DifferInSecrets`) write the same records if both give a result or both fail
(`Operation.records_eq_of_differInSecrets`).
-/

set_option autoImplicit false

namespace DeviceTrust

/-! ## What an operation writes -/

namespace Traced

variable {α β : Type} {given failed : List LogRecord}

/-- **What an operation writes**, told by whether there is a result: these records if there is one,
and those if it fails. -/
structure Writes (x : Traced α) (given failed : List LogRecord) : Prop where
  of_ok : ∀ a, x.result = .ok a → x.records = given
  of_error : ∀ e, x.result = .error e → x.records = failed

namespace Writes

theorem error (e : Error) : Writes (⟨failed, .error e⟩ : Traced α) given failed where
  of_ok := by
    rintro a ⟨⟩
  of_error _ _ := rfl

theorem pure (a : α) : Writes (Pure.pure a : Traced α) [] failed where
  of_ok _ _ := rfl
  of_error := by
    rintro e ⟨⟩

theorem lift_bind {x : Except Error α} {f : α → Traced β}
    (h : ∀ a, x = .ok a → (f a).Writes given []) : Writes (liftM x >>= f) given [] := by
  cases x with
  | error e => exact error e
  | ok a => exact ⟨(h a rfl).of_ok, (h a rfl).of_error⟩

/-- A step that always fails writes anything with a result. -/
theorem lift_of_ne_ok {x : Except Error α} (h : ∀ a, x ≠ .ok a) :
    Writes (liftM x : Traced α) given [] where
  of_ok a ha := absurd ha (h a)
  of_error _ _ := rfl

theorem log_pure (p : Platform) (level : Level) (logger message : String) (a : α) :
    Writes (p.log level logger message >>= fun _ => Pure.pure a)
      (if p.threshold ≤ level then [⟨level, logger, message⟩] else []) failed where
  of_ok _ _ := List.append_nil _
  of_error := by
    rintro e ⟨⟩

/-- **Operations that write the same write the same records** if both give a result or both fail. -/
theorem records_eq {x : Traced α} {y : Traced β} (hx : x.Writes given failed)
    (hy : y.Writes given failed) (h : Agree (fun _ _ => True) x.result y.result) :
    x.records = y.records := by
  cases hxr : x.result with
  | ok a =>
      cases hyr : y.result with
      | ok b => rw [hx.of_ok a hxr, hy.of_ok b hyr]
      | error e =>
          rw [hxr, hyr] at h
          cases h
  | error e =>
      cases hyr : y.result with
      | ok b =>
          rw [hxr, hyr] at h
          cases h
      | error e' => rw [hx.of_error e hxr, hy.of_error e' hyr]

end Writes

end Traced

/-! ## Directional keys -/

namespace Agreement

def derivedRecords (p : Platform) (d : Direction) (n : Int) (peer : PublicKey) : List LogRecord :=
  if p.threshold ≤ Level.debug then
    [⟨Level.debug, logger, s!"Derived {d.name} key ({n} bytes) for peer " ++
      Bytes.hex ((Hash.sha256 peer.encoded).take loggedDigestLength)⟩]
  else []

def derivedRecordsOf (p : Platform) (d : Direction) (peer length : Value) : List LogRecord :=
  match peer, requestedLength? length with
  | .publicKey k, some l => derivedRecords p d (l.getD Parameters.derivedKeyLength) k
  | _, _ => []

/-- The identifier is computed only for the record, and without it there is neither a record nor a
key. -/
theorem writes_logDerived (p : Platform) (d : Direction) (n : Int) (peer : PublicKey)
    (key : Bytes) : Traced.Writes (logDerived p d n peer >>= fun _ => pure key)
      (derivedRecords p d n peer) [] := by
  unfold logDerived
  by_cases hdebug : p.threshold ≤ Level.debug
  · rw [if_pos hdebug]
    cases hdigest : peer.digest p with
    | error e => exact .error e
    | ok b =>
        obtain ⟨-, rfl⟩ := PublicKey.digest_eq_ok_iff.1 hdigest
        exact .log_pure p Level.debug logger _ key
  · have hnone : derivedRecords p d n peer = [] := if_neg hdebug
    rw [if_neg hdebug, hnone]
    exact .pure key

/-- **A directional key is logged once it is derived**, and with nothing secret. -/
theorem writes_directionalKey (p : Platform) (d : Direction) (own : KeyPair) (peer : PublicKey)
    (length? : Option Int) : (directionalKey p d own peer length?).Writes
      (derivedRecords p d (length?.getD Parameters.derivedKeyLength) peer) [] := by
  rw [directionalKey_eq]
  refine .lift_bind fun info _ => .lift_bind fun secret _ => .lift_bind fun key _ => ?_
  exact writes_logDerived p d _ peer key

theorem writes_directionalKeyOf (p : Platform) (d : Direction) (own peer length : Value) :
    (directionalKeyOf p d own peer length).Writes (derivedRecordsOf p d peer length) [] := by
  unfold directionalKeyOf
  refine .lift_bind fun _ hkeys => ?_
  obtain ⟨pair, mark, k, rfl, rfl⟩ := Direction.exists_keys_of_requireKeys hkeys
  cases hlength : requestedLength? length with
  | some l =>
      unfold derivedRecordsOf
      rw [hlength]
      exact writes_directionalKey p d pair k l
  | none =>
      -- what is no length fails after the exchange, so that there is no key
      show (withSecret _ _ _).traced.Writes _ _
      rw [traced_withSecret_held]
      refine .lift_of_ne_ok fun key hkey => ?_
      obtain ⟨_, -, hkey⟩ := bind_eq_ok.1 hkey
      exact deriveOf_ne_ok p hlength _ _ _ key hkey

end Agreement

/-! ## Payloads -/

namespace Payload

/-- **A decryption is logged if it fails**, in whatever way, unless its associated data ask for more
memory than there is. -/
theorem writes_decrypt {p : Platform} {aad : Value} (haad : ¬ aad.Exhausting p.memory)
    (ciphertext key nonce : Value) :
    (decrypt p ciphertext aad key nonce).Writes [] (failureRecords p) := by
  rcases (unsealed_failsOnly p ciphertext aad key nonce).ok_or_error with
    ⟨t, ht⟩ | ⟨f, hf, hfault⟩
  · have hdecrypt : decrypt p ciphertext aad key nonce = pure t := by
      rw [decrypt, ht]
    rw [hdecrypt]
    exact .pure t
  · have hreported : isReported f = true := by
      rcases hfault with (hargument | ⟨hmuch, -⟩) | rfl
      · exact isReported_of_isArgumentFault hargument
      · exact absurd hmuch haad
      · rfl
    rw [decrypt_of_isReported hf hreported]
    exact .error _

end Payload

/-! ## Certificates -/

/-- The suite that signs with the keys of a type, which is known by its name. -/
def Suite.ofKeyType (name : String) : Suite :=
  if name = "ECPrivateKey" then .es256 else .eddsa

theorem Suite.SignsWith.ofKeyType_eq {s : Suite} {k : PrivateKey} (h : s.SignsWith k) :
    Suite.ofKeyType k.typeName = s := by
  cases h <;> rfl

namespace Certificate

def signedRecords (p : Platform) (s : Suite) : List LogRecord :=
  if p.threshold ≤ Level.debug then
    [⟨Level.debug, logger, "Signed certificate with alg " ++ (Value.int s.number).literal⟩]
  else []

theorem algorithm_issue (s : Suite) (k : PrivateKey) (nonce : Nat) (payload : Bytes) :
    (s.issue k nonce payload).algorithm = .ok (.int s.number) := by
  have hheader : Header.decode (.bytes s.header)
      = .ok [(.int Parameters.algorithmLabel, .int s.number)] :=
    Header.decode_of_encodesMap s.encodesMap_header
  have hfound : Entries.find? [(.int Parameters.algorithmLabel, .int s.number)]
      (.int Parameters.algorithmLabel) = some (.int s.number) :=
    if_pos (Value.int_agrees_int.2 rfl)
  refine bind_eq_ok.2 ⟨_, hheader, ?_⟩
  rw [Header.algorithm, hfound]
  rfl

/-- **A certificate is logged with its algorithm**, which is told by the type of the key that signs
it. -/
theorem writes_signPublicKey (p : Platform) (pr : Provider) (key target : Value) :
    (signPublicKey p pr key target).Writes (signedRecords p (.ofKeyType key.typeName)) [] := by
  unfold signPublicKey
  refine .lift_bind fun payload _ => .lift_bind fun m hm => .lift_bind fun algorithm ha => ?_
  obtain ⟨s, -, k, mark, hk, rfl, rfl⟩ := Provider.sign_eq_ok_iff.1 hm
  rw [algorithm_issue] at ha
  cases ha
  have hsuite : Suite.ofKeyType (Value.privateKey k mark).typeName = s := hk.ofKeyType_eq
  rw [hsuite]
  exact .log_pure p _ _ _ _

end Certificate

/-! ## Two runs -/

namespace Operation

/-- **Two operations that differ in secrets only**: in the pair that a key is derived with, in the
text or the ciphertext, the key and the nonce, or in the private key of one type that a certificate
is signed with. The associated data of a decryption, which are the same, are no number of bytes that
the memory of either platform cannot hold; byte strings never are. -/
inductive DifferInSecrets (p p' : Platform) : {α : Type} → Operation α → Operation α → Prop
  | directionalKey (d : Agreement.Direction) (own own' peer length : Value) :
      DifferInSecrets p p' (.directionalKey d own peer length) (.directionalKey d own' peer length)
  | encrypt (text text' aad key key' nonce nonce' : Value) :
      DifferInSecrets p p' (.encrypt text aad key nonce) (.encrypt text' aad key' nonce')
  | decrypt {aad : Value} (haad : ¬ aad.Exhausting p.memory) (haad' : ¬ aad.Exhausting p'.memory)
      (ciphertext ciphertext' key key' nonce nonce' : Value) :
      DifferInSecrets p p' (.decrypt ciphertext aad key nonce)
        (.decrypt ciphertext' aad key' nonce')
  | certify (pr : Provider) {key key' : Value} (htype : key.typeName = key'.typeName)
      (target : Value) :
      DifferInSecrets p p' (.certify pr key target) (.certify pr key' target)

/-- **Log records do not depend on secrets.** Two runs of a key derivation in either direction, of an
encryption, a decryption or a certification that differ in secrets only, on platforms with the same
log level, write the same records if both give a result or both fail. -/
theorem records_eq_of_differInSecrets {α : Type} {op op' : Operation α} {p p' : Platform}
    (h : DifferInSecrets p p' op op') (hlevel : p.threshold = p'.threshold)
    (hends : Agree (fun _ _ => True) (op.run p).result (op'.run p').result) :
    (op.run p).records = (op'.run p').records := by
  cases h with
  | directionalKey d own own' peer length =>
      have hrecords : Agreement.derivedRecordsOf p' d peer length
          = Agreement.derivedRecordsOf p d peer length := by
        simp only [Agreement.derivedRecordsOf, Agreement.derivedRecords, hlevel]
      have hwrites := Agreement.writes_directionalKeyOf p' d own' peer length
      rw [hrecords] at hwrites
      exact (Agreement.writes_directionalKeyOf p d own peer length).records_eq hwrites hends
  | encrypt text text' aad key key' nonce nonce' => rfl
  | decrypt haad haad' ciphertext ciphertext' key key' nonce nonce' =>
      have hrecords : Payload.failureRecords p' = Payload.failureRecords p := by
        simp only [Payload.failureRecords, hlevel]
      have hwrites := Payload.writes_decrypt haad' ciphertext' key' nonce'
      rw [hrecords] at hwrites
      exact (Payload.writes_decrypt haad ciphertext key nonce).records_eq hwrites hends
  | certify pr htype target =>
      rename_i key key'
      have hrecords : Certificate.signedRecords p' (.ofKeyType key'.typeName)
          = Certificate.signedRecords p (.ofKeyType key.typeName) := by
        simp only [Certificate.signedRecords, hlevel, htype]
      have hwrites := Certificate.writes_signPublicKey p' pr key' target
      rw [hrecords] at hwrites
      exact (Certificate.writes_signPublicKey p pr key target).records_eq hwrites hends

/-- A decryption with a key that is too short and one of a ciphertext that is, and certificates of one
key by two others: each pair leaves the same record. -/
theorem records_eq_of_differInSecrets_debug :
    let p : Platform := { threshold := Level.debug }
    let nonce : Value := .bytes (Bytes.zeros 12)
    let unkeyed : Operation Bytes :=
      .decrypt (.bytes (Bytes.zeros 20)) (.bytes []) (.bytes [1]) nonce
    let short : Operation Bytes := .decrypt (.bytes []) (.bytes []) (.bytes (Bytes.zeros 16)) nonce
    let zeros : RawKey := ⟨Bytes.zeros 32, rfl⟩
    let ones : RawKey := ⟨List.replicate 32 1, rfl⟩
    let certify (k : RawKey) : Operation SignedMessage :=
      .certify .standard (.privateKey (.ed25519 k) 0) (.publicKey (.x25519 zeros))
    ((unkeyed.run p).records = (short.run p).records ∧
      (unkeyed.run p).records
        = [⟨10, "provisioning.security.aead", "AES-GCM decryption failed"⟩]) ∧
    ((certify zeros).run p).records = ((certify ones).run { p with nonce := 2 }).records := by
  intro p nonce unkeyed short zeros ones certify
  have haad : ¬ (Value.bytes []).Exhausting p.memory :=
    Value.not_exhausting_of_wholeNumber? rfl
  have hcertify : DifferInSecrets p { p with nonce := 2 } (certify zeros) (certify ones) :=
    .certify .standard (by rfl) (.publicKey (.x25519 zeros))
  refine ⟨⟨records_eq_of_differInSecrets (.decrypt haad haad _ _ _ _ _ _) rfl (.error _ _), rfl⟩,
    records_eq_of_differInSecrets hcertify rfl ?_⟩
  -- both keys sign, so that there are two certificates
  have hes : (PublicKey.x25519 zeros).parameters? = some _ := rfl
  obtain ⟨b, hb⟩ := (PublicKey.portable_of_parameters? hes 0).1.exists_encode
  have hsigned : ∀ (q : Platform) (k : RawKey), q.missing = [] →
      ∃ m, ((certify k).run q).result = .ok m := fun q k hq =>
    ⟨_, Certificate.signPublicKey_eq (by decide) (.eddsa k) 0
      (Certificate.content_eq_ok (CoseKey.ofPublicKey_of_parameters? hq hes) hb)⟩
  obtain ⟨m, hm⟩ := hsigned p zeros rfl
  obtain ⟨m', hm'⟩ := hsigned { p with nonce := 2 } ones rfl
  rw [hm, hm']
  exact .ok trivial

end Operation

end DeviceTrust
