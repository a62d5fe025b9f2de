import DeviceTrust.Certificate
import DeviceTrust.Proofs.Cose.Verification

/-!
# What the verification of a certificate can end in

Three things are read before anything is verified: the candidate, the verifying certificate, and
the key that this one certifies (`Certifies`). If one of them cannot be read, that is a structural
error, and the only way to one. Once all are read (`verify_of_readable`), the outcome is that of the
verification of the message under the key, with an error of it in other words; and a signature that
is not valid is an answer that no expected key changes.
-/

set_option autoImplicit false

namespace DeviceTrust

/-! ## After what was read -/

theorem Traced.liftM_ok_bind {α β : Type} (a : α) (f : α → Traced β) :
    (liftM (.ok a : Except Error α) : Traced α) >>= f = f a := rfl

namespace Certificate

variable {p : Platform} {pr : Provider} {verifying candidate : Value} {m root : SignedMessage}
  {k : CoseKey}

/-- **A message certifies a key**: its payload is the encoding of the key's parameters. -/
def Certifies (m : SignedMessage) (k : CoseKey) : Prop :=
  ∃ b es, m.payload = .bytes b ∧ Cbor.EncodesMap b es ∧ k = .new es

theorem certifiedKey_eq_ok_iff (hm : m.WellFormed) : certifiedKey m = .ok k ↔ Certifies m k := by
  cases hm with
  | intro _ =>
      refine CoseKey.decode_eq_ok_iff.trans ⟨?_, ?_⟩
      · intro h
        cases h with
        | encoded hv hb =>
            cases hv
            exact ⟨_, _, rfl, hb, rfl⟩
      · rintro ⟨b, es, hb, hes, rfl⟩
        cases hb
        exact .encoded rfl hes

theorem certifiedKey_failsOnly (m : SignedMessage) :
    FailsOnly IsDeserialization (certifiedKey m) :=
  CoseKey.decode_failsOnly m.payload

/-- **Everything that must be read can be read**: the candidate holds a message, and the verifying
certificate holds one that certifies a key. -/
structure Readable (verifying candidate : Value) (m : SignedMessage) (k : CoseKey) : Prop where
  message : HoldsMessage candidate m
  key : ∃ root, HoldsMessage verifying root ∧ Certifies root k

def afterReading (p : Platform) (pr : Provider) (m : SignedMessage) (k : CoseKey)
    (expected : Value) : Traced Bool := do
  let valid ← (pr.verify p m k.toValue).mapError reworded
  if !valid then return false
  if !(expected matches .null) then checkExpected p m expected
  return true

/-- **Once everything is read**, the message is verified under the key, and then the certified key is
compared with the expected one. -/
theorem verify_of_holdsMessage (hm : HoldsMessage candidate m) (hroot : HoldsMessage verifying root)
    (hk : certifiedKey root = .ok k) (expected : Value) :
    verify p pr verifying candidate expected = afterReading p pr m k expected := by
  unfold verify
  rw [SignedMessage.decode_eq_ok_iff.2 hm, SignedMessage.decode_eq_ok_iff.2 hroot,
    Traced.liftM_ok_bind, Traced.liftM_ok_bind, hk, Traced.liftM_ok_bind]
  rfl

theorem verify_of_readable (hv : verifying.Vetted) (h : Readable verifying candidate m k)
    (expected : Value) :
    verify p pr verifying candidate expected = afterReading p pr m k expected := by
  obtain ⟨hm, root, hroot, hk⟩ := h
  have hkey := (certifiedKey_eq_ok_iff (SignedMessage.wellFormed_of_holdsMessage hv hroot)).2 hk
  exact verify_of_holdsMessage hm hroot hkey expected

theorem verify_of_not_readable (hv : verifying.Vetted)
    (h : ¬ ∃ m k, Readable verifying candidate m k) (expected : Value) :
    ∃ e, (verify p pr verifying candidate expected).result = .error e ∧ IsDeserialization e := by
  unfold verify
  simp only [Traced.result_bind, Traced.result_lift]
  -- the three readings in order: the first one that fails gives the error
  rcases (SignedMessage.decode_failsOnly candidate).ok_or_error with ⟨m, hm⟩ | ⟨e, he, hr⟩
  · rcases (SignedMessage.decode_failsOnly verifying).ok_or_error with ⟨root, hroot⟩ | ⟨e, he, hr⟩
    · rcases (certifiedKey_failsOnly root).ok_or_error with ⟨k, hk⟩ | ⟨e, he, hr⟩
      · have hroot := SignedMessage.decode_eq_ok_iff.1 hroot
        have hwell := SignedMessage.wellFormed_of_holdsMessage hv hroot
        exact absurd ⟨m, k, SignedMessage.decode_eq_ok_iff.1 hm, root, hroot,
          (certifiedKey_eq_ok_iff hwell).1 hk⟩ h
      · exact ⟨e, by rw [hm, hroot]; show certifiedKey root >>= _ = _; rw [he]; rfl, hr⟩
    · exact ⟨e, by rw [hm, he]; rfl, hr⟩
  · exact ⟨e, by rw [he]; rfl, hr⟩

/-- The errors of a verification count as those of something that cannot be trusted. -/
theorem reworded_of_isReported {e : Error} (h : IsReported e) : reworded e = .unverifiable e :=
  if_pos h

theorem result_afterReading_null (p : Platform) (pr : Provider) (m : SignedMessage) (k : CoseKey) :
    (afterReading p pr m k .null).result
      = (pr.verify p m k.toValue).result.mapError reworded := by
  unfold afterReading
  rw [Traced.result_bind, Traced.result_mapError]
  cases (pr.verify p m k.toValue).result with
  | error e => rfl
  | ok valid => cases valid <;> rfl

/-- A signature that is not valid is the end, whatever key is expected. -/
theorem afterReading_of_invalid (h : (pr.verify p m k.toValue).result = .ok false)
    (expected : Value) :
    afterReading p pr m k expected = afterReading p pr m k .null ∧
      (afterReading p pr m k expected).result = .ok false := by
  have hinvalid : ((pr.verify p m k.toValue).mapError reworded).result = .ok false := by
    rw [Traced.result_mapError, h]
    rfl
  refine ⟨Traced.bind_congr fun valid hvalid => ?_, ?_⟩
  · cases hinvalid.symm.trans hvalid
    rfl
  · unfold afterReading
    rw [Traced.result_bind, hinvalid]
    rfl

/-- **The outcome once everything is read**: that of the verification, with an error of it as the
cause of another one. -/
theorem result_verify_of_readable (hv : verifying.Vetted) (hc : candidate.Vetted)
    (h : Readable verifying candidate m k) :
    (verify p pr verifying candidate).result
      = (pr.verify p m k.toValue).result.mapError .unverifiable := by
  rw [verify_of_readable hv h, result_afterReading_null]
  have hwell := SignedMessage.wellFormed_of_holdsMessage hc h.message
  rcases (Provider.verify_failsOnly_of_wellFormed p pr hwell k).ok_or_error with
    ⟨b, hb⟩ | ⟨e, he, hreported⟩
  · rw [hb]
    rfl
  · rw [he]
    exact congrArg Except.error (reworded_of_isReported hreported)

/-- **The error is that of input that cannot be read exactly if something cannot be read.** -/
theorem verify_isDeserialization_iff (hv : verifying.Vetted) (hc : candidate.Vetted) :
    (∃ e, (verify p pr verifying candidate).result = .error e ∧ IsDeserialization e) ↔
      ¬ ∃ m k, Readable verifying candidate m k := by
  constructor
  · rintro ⟨e, he, hreason⟩ ⟨m, k, h⟩
    rw [result_verify_of_readable hv hc h] at he
    obtain ⟨_, -, rfl⟩ := mapError_eq_error.1 he
    cases hreason
  · intro h
    exact verify_of_not_readable hv h .null

theorem not_readable_iff : (¬ ∃ m k, Readable verifying candidate m k) ↔
    (¬ ∃ m, HoldsMessage candidate m) ∨ (¬ ∃ root, HoldsMessage verifying root) ∨
      ∃ root, HoldsMessage verifying root ∧ ¬ ∃ k, Certifies root k := by
  constructor
  · intro h
    by_cases hcandidate : ∃ m, HoldsMessage candidate m
    · by_cases hverifying : ∃ root, HoldsMessage verifying root
      · obtain ⟨m, hm⟩ := hcandidate
        obtain ⟨root, hroot⟩ := hverifying
        exact .inr (.inr ⟨root, hroot, fun ⟨k, hk⟩ => h ⟨m, k, hm, root, hroot, hk⟩⟩)
      · exact .inr (.inl hverifying)
    · exact .inl hcandidate
  · rintro h ⟨m, k, hm, root, hroot, hk⟩
    rcases h with h | h | ⟨root', hroot', h⟩
    · exact h ⟨m, hm⟩
    · exact h ⟨root, hroot⟩
    · rw [SignedMessage.holdsMessage_unique hroot' hroot] at h
      exact h ⟨k, hk⟩

/-- **Every pair of inputs, classified.** The error is that of input that cannot be read exactly if
the candidate or the verifying certificate holds no message, or the latter's message certifies no
key. Otherwise the answer is that of the verification of the message under the key, and an error of
this verification is the cause of a verification failure. There is no other error, and no expected
key changes the answer for a signature that is not valid. -/
theorem verify_classified (p : Platform) (pr : Provider) {verifying candidate : Value}
    (hv : verifying.Vetted) (hc : candidate.Vetted) :
    ((∃ e, (verify p pr verifying candidate).result = .error e ∧ IsDeserialization e) ↔
      (¬ ∃ m, HoldsMessage candidate m) ∨ (¬ ∃ root, HoldsMessage verifying root) ∨
        ∃ root, HoldsMessage verifying root ∧ ¬ ∃ k, Certifies root k) ∧
    (∀ m root k, HoldsMessage candidate m → HoldsMessage verifying root → Certifies root k →
      (∀ b, (verify p pr verifying candidate).result = .ok b ↔
        (pr.verify p m k.toValue).result = .ok b) ∧
      (∀ e, (pr.verify p m k.toValue).result = .error e →
        ∃ e', (verify p pr verifying candidate).result = .error e' ∧
          IsVerificationFailure e' ∧ e'.cause? = some e) ∧
      ((pr.verify p m k.toValue).result = .ok false → ∀ expected,
        (verify p pr verifying candidate expected).result = .ok false ∧
          verify p pr verifying candidate expected = verify p pr verifying candidate)) ∧
    ∀ e, (verify p pr verifying candidate).result = .error e →
      IsDeserialization e ∨ IsVerificationFailure e := by
  refine ⟨(verify_isDeserialization_iff hv hc).trans not_readable_iff, ?_, ?_⟩
  · intro m root k hm hroot hk
    have hreadable : Readable verifying candidate m k := ⟨hm, root, hroot, hk⟩
    have hresult : (verify p pr verifying candidate).result = _ :=
      result_verify_of_readable hv hc hreadable
    refine ⟨fun b => ?_, fun e he => ?_, fun hinvalid expected => ?_⟩
    · rw [hresult]
      exact mapError_eq_ok
    · refine ⟨.unverifiable e, ?_, rfl, rfl⟩
      rw [hresult, he]
      rfl
    · obtain ⟨hsame, hfalse⟩ := afterReading_of_invalid hinvalid expected
      rw [verify_of_readable hv hreadable, verify_of_readable hv hreadable]
      exact ⟨hfalse, hsame⟩
  · intro e he
    -- once everything is readable nothing but the provider can fail
    by_cases hreadable : ∃ m k, Readable verifying candidate m k
    · obtain ⟨m, k, hreadable⟩ := hreadable
      rw [result_verify_of_readable hv hc hreadable] at he
      obtain ⟨_, -, rfl⟩ := mapError_eq_error.1 he
      exact .inr rfl
    · obtain ⟨e', he', hreason⟩ := (verify_isDeserialization_iff hv hc).2 hreadable
      rw [he] at he'
      cases he'
      exact .inl hreason

/-- A message that certifies the key without any parameters can be read, but nothing can be verified
under its key. -/
theorem verify_classified_unusable :
    let m : SignedMessage := ⟨.bytes [0xa1, 0x01, 0x27], .map .plain [], .bytes [0xa0], .bytes []⟩
    m.toValue.Vetted ∧
      ∃ e, (verify {} .standard m.toValue m.toValue).result = .error e ∧ IsVerificationFailure e := by
  intro m
  have hheader : Header.IsReadable [0xa1, 0x01, 0x27] :=
    .inr ⟨[(.int 1, .int (-8))], .plain, rfl⟩
  have hvetted : m.toValue.Vetted := by
    rintro _ ⟨⟩
    exact .intro hheader
  have hcertifies : Certifies m (.new []) := ⟨[0xa0], [], rfl, ⟨.plain, rfl⟩, rfl⟩
  have hclassified := verify_classified {} .standard hvetted hvetted
  obtain ⟨-, hcause, -⟩ := hclassified.2.1 m m _ (.message m) (.message m) hcertifies
  rcases (Provider.verify_failsOnly_of_wellFormed {} .standard (hvetted m rfl)
    (.new [])).ok_or_error with ⟨b, hb⟩ | ⟨e, he, -⟩
  · -- a key without parameters is a key of neither suite
    obtain ⟨s, -, -, -, pub, hreads, -⟩ :=
      (Provider.verify_eq_ok_iff rfl (CoseKey.normal_new [])).1 hb
    cases hreads with
    | eddsa h => cases h.keyType
    | es256 h => cases h.keyType
  · obtain ⟨e', he', hreason, -⟩ := hcause e he
    exact ⟨hvetted, e', he', hreason⟩

end Certificate

end DeviceTrust
