import DeviceTrust.Proofs.Payload

/-!
# Encryption and decryption fail in one way each

The arguments of the cipher can be values of any sort. What is wrong with them, and whether they
were made with the key at hand, shows at different points and in different faults; but a caller sees
one report for all failures of encryption and one for those of decryption, and a decryption that
fails leaves one record (`failures_are_uniform`). The faults are those of reading the arguments
(`Value.toBytes_failsOnly`), and for decryption that of the tag; which arguments have none of them is
known as well (`Takes`).

Only a lack of memory is passed on as it is. A number as an argument asks for that many zero bytes,
and this is the one way to run out of memory (`Value.Exhausting`).
-/

set_option autoImplicit false

namespace DeviceTrust

/-! ## Faults of arguments -/

/-- **A fault of an argument**: one of its value or type, or a number too big. -/
def IsArgumentFault (f : Fault) : Prop := f.faultClass ∈ [.value, .type, .overflow]

theorem isArgumentFault_of_value {f : Fault} (h : f.faultClass = .value) : IsArgumentFault f := by
  simp [IsArgumentFault, h]

theorem isArgumentFault_of_type {f : Fault} (h : f.faultClass = .type) : IsArgumentFault f := by
  simp [IsArgumentFault, h]

theorem isArgumentFault_of_overflow {f : Fault} (h : f.faultClass = .overflow) :
    IsArgumentFault f := by
  simp [IsArgumentFault, h]

/-- A fault of an argument, or a lack of memory under a condition. -/
def IsReadFault (exhausting : Prop) (f : Fault) : Prop :=
  IsArgumentFault f ∨ exhausting ∧ f = .plain .memory

theorem IsReadFault.mono {A B : Prop} (h : A → B) {f : Fault} (hf : IsReadFault A f) :
    IsReadFault B f :=
  hf.imp_right fun hmemory => ⟨h hmemory.1, hmemory.2⟩

namespace Value

/-- **How a value fails to be bytes.** -/
theorem toBytes_failsOnly_isReadFault (v : Value) (memory : Nat) :
    FailsOnly (IsReadFault (v.Exhausting memory)) (v.toBytes memory) := by
  refine (v.toBytes_failsOnly memory).mono fun f hf => ?_
  cases hf with
  | sort h =>
      rcases h with h | h
      · exact .inl (isArgumentFault_of_type h)
      · exact .inl (isArgumentFault_of_value h)
  | uncountable _ => exact .inl (isArgumentFault_of_overflow rfl)
  | exhausting h => exact .inr ⟨h, rfl⟩

/-- A value with a length is bytes, or its fault is one of an argument. -/
theorem toBytes_failsOnly_of_length? {v : Value} {n : Nat} (h : v.length? = some n) (A : Prop)
    (memory : Nat) : FailsOnly (IsReadFault A) (v.toBytes memory) :=
  (v.toBytes_failsOnly_isReadFault memory).mono fun _ hf => hf.mono fun hmuch =>
    absurd hmuch (not_exhausting_of_wholeNumber? (wholeNumber?_of_length? h))

theorem requireLength_failsOnly (v : Value) : FailsOnly IsArgumentFault v.requireLength := by
  unfold requireLength
  split
  · exact .ok _
  · exact .error (isArgumentFault_of_type rfl)

end Value

/-! ## The cipher -/

namespace Payload

variable {p : Platform} {text ciphertext aad key nonce : Value} {f : Fault}

/-- What a failed decryption writes on a platform, in whatever way it fails. -/
def failureRecords (p : Platform) : List LogRecord :=
  if p.threshold ≤ Level.debug then [⟨Level.debug, logger, "AES-GCM decryption failed"⟩] else []

theorem checkSizes_failsOnly (key nonce : Value) :
    FailsOnly IsArgumentFault (checkSizes key nonce) := by
  unfold checkSizes
  refine key.requireLength_failsOnly.bind fun k _ => ?_
  split
  · exact .error (isArgumentFault_of_value rfl)
  · refine nonce.requireLength_failsOnly.bind fun n _ => ?_
    split
    · exact .error (isArgumentFault_of_value rfl)
    · exact .ok _

/-- **How the arguments fail to be read**, after their sizes were checked: then neither the key nor
the nonce asks for memory. -/
theorem readInput_failsOnly (hsizes : checkSizes key nonce = .ok ()) (p : Platform)
    (text aad : Value) :
    FailsOnly (IsReadFault (text.Exhausting p.memory ∨ aad.Exhausting p.memory))
      (readInput p text aad key nonce) := by
  obtain ⟨⟨k, -, hkey⟩, hnonce⟩ := checkSizes_eq_ok_iff_length?.1 hsizes
  have htext := (text.toBytes_failsOnly_isReadFault p.memory).mono
    fun _ hf => hf.mono (B := _ ∨ aad.Exhausting p.memory) .inl
  have haad := (aad.toBytes_failsOnly_isReadFault p.memory).mono
    fun _ hf => hf.mono (B := text.Exhausting p.memory ∨ _) .inr
  unfold readInput
  refine (Value.toBytes_failsOnly_of_length? hkey _ _).bind fun _ _ => ?_
  refine (Value.toBytes_failsOnly_of_length? hnonce _ _).bind fun _ _ => ?_
  refine htext.bind fun t _ => haad.bind fun a _ => ?_
  split
  · exact .error (.inl (isArgumentFault_of_overflow rfl))
  · exact .ok _

/-- **How the cipher fails to make a ciphertext.** -/
theorem sealed_failsOnly (p : Platform) (text aad key nonce : Value) :
    FailsOnly (IsReadFault (text.Exhausting p.memory ∨ aad.Exhausting p.memory))
      (sealed p text aad key nonce) := by
  unfold sealed
  refine ((checkSizes_failsOnly key nonce).mono fun _ hf => .inl hf).bind fun _ hsizes => ?_
  exact (readInput_failsOnly hsizes p text aad).bind fun _ _ => .ok _

/-- **How the cipher fails to give a text back.** A ciphertext has a length, so only the associated
data can ask for memory. -/
theorem unsealed_failsOnly (p : Platform) (ciphertext aad key nonce : Value) :
    FailsOnly (fun f => IsReadFault (aad.Exhausting p.memory) f ∨ f = .plain .invalidTag)
      (unsealed p ciphertext aad key nonce) := by
  unfold unsealed
  refine ((checkSizes_failsOnly key nonce).mono fun _ hf => .inl (.inl hf)).bind fun _ hsizes => ?_
  refine (ciphertext.requireLength_failsOnly.mono fun _ hf => .inl (.inl hf)).bind fun n hn => ?_
  have hlength := Value.requireLength_eq_ok_iff.1 hn
  split
  · exact .error (.inl (.inl (isArgumentFault_of_value rfl)))
  · have hread := (readInput_failsOnly hsizes p ciphertext aad).mono fun _ hf =>
      hf.mono fun hmuch => hmuch.resolve_left
        (Value.not_exhausting_of_wholeNumber? (Value.wholeNumber?_of_length? hlength))
    refine (hread.mono fun _ hf => .inl hf).bind fun i _ => ?_
    split
    · exact .ok _
    · exact .error (.inr rfl)

/-- **A key or a nonce has the wrong size**, which is noticed first. -/
inductive WrongSize : Value → Value → Fault → Prop
  | key {key nonce : Value} {n : Nat} (h : key.length? = some n)
      (hn : n ∉ Parameters.cipherKeyLengths) : WrongSize key nonce (.cipherKeyLength n)
  | nonce {key nonce : Value} {k n : Nat} (hkey : key.length? = some k)
      (hk : k ∈ Parameters.cipherKeyLengths) (h : nonce.length? = some n)
      (hn : n ≠ Parameters.nonceLength) : WrongSize key nonce (.nonceLength n)

theorem checkSizes_of_wrongSize (h : WrongSize key nonce f) : checkSizes key nonce = .error f := by
  unfold checkSizes
  cases h with
  | @key n h hn =>
      have hcontains : (!Parameters.cipherKeyLengths.contains n) = true := by simpa using hn
      rw [Value.requireLength_eq_ok_iff.2 h]
      exact if_pos hcontains
  | @nonce k n hkey hk h hn =>
      have hcontains : ¬ (!Parameters.cipherKeyLengths.contains k) = true := by simpa using hk
      rw [Value.requireLength_eq_ok_iff.2 hkey, Value.requireLength_eq_ok_iff.2 h]
      exact (if_neg hcontains).trans (if_pos hn)

/-- **A package whose tag is not the one of its ciphertext is refused for this.** -/
theorem unsealed_of_wrongTag {i : Input} {c mark : Bytes} {n : Nat}
    (h : Takes p ciphertext aad key nonce i) (hn : ciphertext.length? = some n)
    (htext : i.text = c ++ mark) (hmark : mark.length = Parameters.tagLength)
    (htag : mark ≠ Gcm.tag (Aes.expandKey i.key) i.nonce i.aad c) :
    unsealed p ciphertext aad key nonce = .error (.plain .invalidTag) := by
  obtain ⟨hsizes, hread⟩ := takes_iff.1 h
  have hnone : Gcm.decrypt i.key i.nonce i.aad i.text = none := by
    rw [htext]
    exact Gcm.decrypt_eq_none hmark htag
  have hroom : ¬ n < Parameters.tagLength := by
    rw [← h.text.standsFor.length_eq hn, htext, List.length_append]
    omega
  unfold unsealed
  rw [hsizes, Value.requireLength_eq_ok_iff.2 hn]
  refine (if_neg hroom).trans ?_
  rw [hread]
  dsimp only [bind, Except.bind]
  rw [hnone]
  rfl

/-! ## The two operations -/

theorem isReported_of_isArgumentFault {f : Fault} (h : IsArgumentFault f) :
    isReported f = true := by
  have hother : f.faultClass ≠ .memory := by
    intro hmemory
    rw [IsArgumentFault, hmemory] at h
    exact absurd h (by decide)
  simpa [isReported] using hother

/-- **How an encryption fails.** -/
theorem encrypt_failsOnly (p : Platform) (text aad key nonce : Value) :
    FailsOnly (fun e => (∃ f, e = .encryption f ∧ IsArgumentFault f) ∨
      (text.Exhausting p.memory ∨ aad.Exhausting p.memory) ∧ e = .fault (.plain .memory))
      (encrypt p text aad key nonce) := by
  intro e he
  obtain ⟨f, hf, rfl⟩ := mapError_eq_error.1 he
  rcases sealed_failsOnly p text aad key nonce f hf with hargument | ⟨hmuch, rfl⟩
  · rw [if_pos (isReported_of_isArgumentFault hargument)]
    exact .inl ⟨f, rfl, hargument⟩
  · exact .inr ⟨hmuch, rfl⟩

theorem decrypt_eq_text_iff {t : Bytes} : decrypt p ciphertext aad key nonce = ⟨[], .ok t⟩ ↔
    unsealed p ciphertext aad key nonce = .ok t := by
  constructor
  · intro h
    have hresult := congrArg Traced.result h
    rw [result_decrypt] at hresult
    exact mapError_eq_ok.1 hresult
  · intro h
    unfold decrypt
    rw [h]
    rfl

/-- A decryption fails without a text, and leaves the one record. -/
theorem decrypt_of_isReported (hf : unsealed p ciphertext aad key nonce = .error f)
    (hreported : isReported f = true) :
    decrypt p ciphertext aad key nonce = ⟨failureRecords p, .error (.decryption f)⟩ := by
  unfold decrypt
  rw [hf]
  dsimp only
  rw [if_pos hreported]
  show Traced.mk (failureRecords p ++ []) _ = _
  rw [List.append_nil]
  rfl

/-- Memory that runs out is no failure of the cipher: it is neither caught nor recorded. -/
theorem decrypt_of_not_isReported (hf : unsealed p ciphertext aad key nonce = .error f)
    (hpassed : isReported f = false) :
    decrypt p ciphertext aad key nonce = ⟨[], .error (.fault f)⟩ := by
  unfold decrypt
  rw [hf]
  dsimp only
  rw [if_neg (by rw [hpassed]; decide)]
  rfl

/-- **A size is wrong in both operations alike.** -/
theorem failures_of_wrongSize (h : WrongSize key nonce f) (p : Platform)
    (text ciphertext aad : Value) :
    encrypt p text aad key nonce = .error (.encryption f) ∧
      decrypt p ciphertext aad key nonce = ⟨failureRecords p, .error (.decryption f)⟩ := by
  have hsizes := checkSizes_of_wrongSize h
  have hreported : isReported f = true := by
    cases h with
    | key | nonce => rfl
  constructor
  · unfold encrypt sealed
    rw [hsizes]
    show Except.error (if isReported f then _ else _) = _
    rw [if_pos hreported]
  · refine decrypt_of_isReported ?_ hreported
    unfold unsealed
    rw [hsizes]
    rfl

/-- **Encryption and decryption fail in one way each, and always give an answer.** Take any values
as arguments. Encryption gives a ciphertext, or fails with one and the same report. Decryption gives
a text and writes no record, or it fails with one and the same report and writes the one debug
record, whatever is wrong: an argument, or the tag. It gives a text only for a key of 16, 24 or 32
elements, a nonce of 12 and a ciphertext of at least 16. The only other outcome is a lack of memory,
for a number of zero bytes that is asked for as text or as associated data.

Which of these it is, the arguments tell. There is a ciphertext exactly for what the cipher takes, and
a text exactly if it is the one that would be encrypted to the ciphertext. A package with another tag
than that of its ciphertext fails for this, and a key or a nonce of the wrong size fails in both
operations before all else. -/
theorem failures_are_uniform (p : Platform) (text ciphertext aad key nonce : Value) :
    ((∃ c, encrypt p text aad key nonce = .ok c) ∨
      (∃ e f, encrypt p text aad key nonce = .error e ∧
        e.report? = some (.bare "Encryption failure" .encryptionFailure) ∧
        e.cause? = some (.fault f) ∧ IsArgumentFault f) ∨
      (text.Exhausting p.memory ∨ aad.Exhausting p.memory) ∧
        encrypt p text aad key nonce = .error (.fault (.plain .memory))) ∧
    ((∃ t, decrypt p ciphertext aad key nonce = ⟨[], .ok t⟩ ∧
        (∃ n ∈ [16, 24, 32], key.length? = some n) ∧ nonce.length? = some 12 ∧
        ∃ n, ciphertext.length? = some n ∧ 16 ≤ n) ∨
      (∃ e f, decrypt p ciphertext aad key nonce = ⟨failureRecords p, .error e⟩ ∧
        e.report? = some (.bare "Decryption failure" .decryptionFailure) ∧
        e.cause? = some (.fault f) ∧ (IsArgumentFault f ∨ f = .plain .invalidTag)) ∨
      aad.Exhausting p.memory ∧
        decrypt p ciphertext aad key nonce = ⟨[], .error (.fault (.plain .memory))⟩) ∧
    (∀ c, encrypt p text aad key nonce = .ok c ↔
      ∃ i, Takes p text aad key nonce i ∧ Gcm.encrypt i.key i.nonce i.aad i.text = c) ∧
    (∀ t, decrypt p ciphertext aad key nonce = ⟨[], .ok t⟩ ↔
      ∃ i, Takes p ciphertext aad key nonce i ∧ (∃ n, ciphertext.length? = some n ∧ 16 ≤ n) ∧
        Gcm.encrypt i.key i.nonce i.aad t = i.text) ∧
    (∀ i c mark, Takes p ciphertext aad key nonce i → (∃ n, ciphertext.length? = some n) →
      i.text = c ++ mark → mark.length = 16 →
      mark ≠ Gcm.tag (Aes.expandKey i.key) i.nonce i.aad c →
        decrypt p ciphertext aad key nonce
          = ⟨failureRecords p, .error (.decryption (.plain .invalidTag))⟩) ∧
    ∀ f, WrongSize key nonce f → encrypt p text aad key nonce = .error (.encryption f) ∧
      decrypt p ciphertext aad key nonce = ⟨failureRecords p, .error (.decryption f)⟩ := by
  refine ⟨?_, ?_, fun c => ?_, fun t => ?_, ?_, fun f hsize => ?_⟩
  · rcases (encrypt_failsOnly p text aad key nonce).ok_or_error with hc | ⟨e, he, hfailure⟩
    · exact .inl hc
    · rcases hfailure with ⟨f, rfl, hargument⟩ | ⟨hmuch, rfl⟩
      · exact .inr (.inl ⟨_, f, he, rfl, rfl, hargument⟩)
      · exact .inr (.inr ⟨hmuch, he⟩)
  · rcases (unsealed_failsOnly p ciphertext aad key nonce).ok_or_error with ⟨t, ht⟩ | ⟨f, hf, hfault⟩
    · obtain ⟨i, htakes, hroom, -⟩ := unsealed_eq_ok_iff.1 ht
      exact .inl ⟨t, decrypt_eq_text_iff.2 ht, htakes.keySize, htakes.nonceSize, hroom⟩
    · rcases hfault with (hargument | ⟨hmuch, rfl⟩) | rfl
      · have hreported := isReported_of_isArgumentFault hargument
        exact .inr (.inl ⟨_, f, decrypt_of_isReported hf hreported, rfl, rfl, .inl hargument⟩)
      · exact .inr (.inr ⟨hmuch, decrypt_of_not_isReported hf rfl⟩)
      · exact .inr (.inl ⟨_, _, decrypt_of_isReported hf rfl, rfl, rfl, .inr rfl⟩)
  · unfold encrypt
    rw [mapError_eq_ok, sealed_eq_ok_iff]
  · rw [decrypt_eq_text_iff, unsealed_eq_ok_iff]
    simp only [Gcm.decrypt_eq_some_iff]
    rfl
  · rintro i c mark htakes ⟨n, hn⟩ htext hmark htag
    exact decrypt_of_isReported (unsealed_of_wrongTag htakes hn htext hmark htag) rfl
  · exact failures_of_wrongSize hsize p text ciphertext aad

/-- Sixteen zero bytes are no tag for nothing, and a key of fifteen bytes is too short. -/
theorem failures_are_uniform_zeros :
    let key (n : Nat) : Value := .bytes (Bytes.zeros n)
    let nonce : Value := .buffer (Bytes.zeros 12)
    let none : Value := .bytes []
    decrypt {} (.bytes (Bytes.zeros 16)) none (key 16) nonce
        = ⟨failureRecords {}, .error (.decryption (.plain .invalidTag))⟩ ∧
      encrypt {} none none (key 15) nonce = .error (.encryption (.cipherKeyLength 15)) := by
  intro key nonce none
  have hwrong := fun n => failures_are_uniform {} none (.bytes (Bytes.zeros 16)) none (key n) nonce
  constructor
  · have hholds : Holds (.bytes (Bytes.zeros 16)) none (key 16) nonce
        ⟨Bytes.zeros 16, Bytes.zeros 12, Bytes.zeros 16, []⟩ := ⟨rfl, rfl, rfl, rfl⟩
    have htakes := (hholds.takes_iff (p := {})).2 ⟨rfl, ⟨by decide, rfl, by decide, by decide⟩⟩
    refine (hwrong 16).2.2.2.2.1 _ [] (Bytes.zeros 16) htakes ⟨16, rfl⟩ rfl rfl ?_
    decide +kernel
  · exact ((hwrong 15).2.2.2.2.2 _ (.key rfl (by decide))).1

end Payload

end DeviceTrust
