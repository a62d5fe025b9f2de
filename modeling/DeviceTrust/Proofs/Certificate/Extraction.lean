import DeviceTrust.Proofs.Certificate.Issued

/-!
# What is extracted is what was certified

A certificate of a public key holds the parameters of the key and nothing else that extraction looks
at. The reader of the key's own curve gives the key back, and the reader of another curve refuses it
with the first number that differs: the curve for a key with raw bytes, the type for a point
(`Extracts`). So agreement keys and identity keys, which are both thirty-two bytes, are never taken
for each other.

Neither the private key that signed, nor the signature, nor the unprotected header has a part in
this: it holds of every value that is read as a message with the payload (`extract_exact`).
-/

set_option autoImplicit false

namespace DeviceTrust

namespace Certificate

variable {p p₀ : Platform} {pr : Provider} {k : PublicKey} {v : Value} {m : SignedMessage}
  {b : Bytes} {es : Entries}

/-! ## What is extracted -/

/-- **A key is refused for a number**: the report names the field, the number that was expected
there and the number that is there. -/
def Refused (outcome : Except Error PublicKey) (field : String) (expected actual : Int) : Prop :=
  ∃ e message, outcome = .error e ∧
    e.report? = some ⟨message, .incorrectCoseType, some field, .int expected, .int actual⟩

/-- **What is extracted from a certificate of a key**: the key, if it is asked for by its curve and
the platform has the curve. A key on the larger curve has no certificate. -/
def Extracts (p : Platform) (v : Value) : PublicKey → Prop
  | .x25519 raw =>
    (.x25519Public ∉ p.missing → extract p .x25519 v = .ok (.x25519 raw)) ∧
      Refused (extract p .ed25519 v) "crv" 6 4
  | .ed25519 raw =>
    (.ed25519Public ∉ p.missing → extract p .ed25519 v = .ok (.ed25519 raw)) ∧
      Refused (extract p .x25519 v) "crv" 4 6
  | .p256 _ _ => Refused (extract p .x25519 v) "kty" 1 2 ∧ Refused (extract p .ed25519 v) "kty" 1 2
  | .p384 _ _ => False

/-! ## From the payload -/

/-- The content of a certificate of a key is the encoding of the parameters of the key. -/
theorem parameters?_of_content (h : content p (.publicKey k) = .ok b) :
    ∃ es, k.parameters? = some es ∧ CoseKey.encode ⟨es⟩ = .ok b := by
  obtain ⟨form, hform, hb⟩ := exists_of_content_eq_ok h
  exact ⟨form.parameters, CoseKey.parameters?_of_ofPublicKey hform, hb⟩

/-- **Extraction reads the payload only**: from a message with the encoding of a key's parameters it
goes on with these parameters. -/
theorem extract_eq (hes : k.parameters? = some es) (hb : CoseKey.encode ⟨es⟩ = .ok b)
    (hm : SignedMessage.decode v = .ok m) (hpayload : m.payload.byteString? = some b)
    (p : Platform) (c : RawCurve) : extract p c v = CoseKey.toRawKey p c ⟨es⟩ := by
  have hkey : certifiedKey m = .ok ⟨es⟩ :=
    PublicKey.decode_of_parameters? hes (.encoded hb hpayload)
  unfold extract
  rw [hm]
  show (certifiedKey m >>= _) = _
  rw [hkey]
  rfl

/-- **From the parameters of a key, the key is extracted.** -/
theorem extracts_of_eq (hes : k.parameters? = some es)
    (h : ∀ c, extract p c v = CoseKey.toRawKey p c ⟨es⟩) : Extracts p v k := by
  cases k with
  | x25519 raw =>
      refine ⟨fun hp => ?_, ?_⟩
      · rw [h]
        exact PublicKey.toRawKey_of_parameters? (c := .x25519) hp hes
      · rw [h, PublicKey.toRawKey_of_parameters?_ne (c := .x25519) (by decide) hes]
        exact ⟨_, _, rfl, rfl⟩
  | ed25519 raw =>
      refine ⟨fun hp => ?_, ?_⟩
      · rw [h]
        exact PublicKey.toRawKey_of_parameters? (c := .ed25519) hp hes
      · rw [h, PublicKey.toRawKey_of_parameters?_ne (c := .ed25519) (by decide) hes]
        exact ⟨_, _, rfl, rfl⟩
  | p256 x y =>
      constructor
      · rw [h, PublicKey.toRawKey_of_parameters?_p256 hes]
        exact ⟨_, _, rfl, rfl⟩
      · rw [h, PublicKey.toRawKey_of_parameters?_p256 hes]
        exact ⟨_, _, rfl, rfl⟩
  | p384 _ _ => cases hes

/-- **A certificate of a key has the encoding of its parameters for its payload**, and is read in
every form as a message with this payload. -/
theorem certifies_parameters {key : Value} {cert : SignedMessage}
    (h : (signPublicKey p₀ pr key (.publicKey k)).result = .ok cert) :
    ∃ es b, k.parameters? = some es ∧ CoseKey.encode ⟨es⟩ = .ok b ∧ cert.payload = .bytes b ∧
      ∀ v, cert.Form v → ∃ m, SignedMessage.decode v = .ok m ∧ m.payload.byteString? = some b := by
  obtain ⟨s, -, sk, -, b, hsk, -, hcontent, rfl⟩ := signPublicKey_eq_ok_iff.1 h
  obtain ⟨es, hes, hb⟩ := parameters?_of_content hcontent
  have hshort : (b.length : Int) ≤ Value.greatestCount := by
    have hlength := PublicKey.length_encode_of_parameters? hes hb
    unfold Value.greatestCount
    omega
  refine ⟨es, b, hes, hb, rfl, fun v hv => ?_⟩
  obtain ⟨u, hmessage⟩ := holdsMessage_of_form_issue hsk hshort hv
  exact ⟨_, SignedMessage.decode_eq_ok_iff.2 hmessage, rfl⟩

/-- **Extraction is exact.** A provider signs a certificate of every key but one on the larger
curve, if the platform has the digest. Whatever signed it, what is extracted from the certificate
depends on its key, in every form: a key with raw bytes is given by the reader of its curve only, a
point by none. The same holds of any value that is read as a message with the payload of the
certificate, whatever headers and signature it has. Two certificates of one key, by any signers on
any platforms, give the same outcome in any form. -/
theorem extract_exact (p₀ : Platform) (pr : Provider) (k : PublicKey) :
    (∀ s sk mark, s ∈ pr.suites → s.SignsWith sk → .sha256 ∉ p₀.missing →
      (∀ x y, k ≠ .p384 x y) → ∃ cert,
        (signPublicKey p₀ pr (.privateKey sk mark) (.publicKey k)).result = .ok cert) ∧
    ∀ key cert, (signPublicKey p₀ pr key (.publicKey k)).result = .ok cert →
      (∀ v, cert.Form v → ∀ p, Extracts p v k) ∧
      (∀ v m b, SignedMessage.decode v = .ok m → m.payload.byteString? = some b →
        cert.payload.byteString? = some b → ∀ p, Extracts p v k) ∧
      ∀ (p₁ : Platform) (pr₁ : Provider) key₁ cert₁,
        (signPublicKey p₁ pr₁ key₁ (.publicKey k)).result = .ok cert₁ →
          ∀ v v₁, cert.Form v → cert₁.Form v₁ → ∀ p c, extract p c v = extract p c v₁ := by
  constructor
  · intro s sk mark hs hsk hp₀ hother
    have hes : ∃ es, k.parameters? = some es := by
      cases k with
      | x25519 _ | ed25519 _ | p256 _ _ => exact ⟨_, rfl⟩
      | p384 x y => exact absurd rfl (hother x y)
    obtain ⟨es, hes⟩ := hes
    obtain ⟨b, hb⟩ := (PublicKey.portable_of_parameters? hes 0).1.exists_encode
    have hcontent : content p₀ (.publicKey k) = .ok b :=
      content_eq_ok (CoseKey.ofPublicKey_eq hp₀ hes) hb
    exact ⟨_, signPublicKey_eq hs hsk mark hcontent⟩
  · intro key cert h
    obtain ⟨es, b, hes, hb, hpayload, hforms⟩ := certifies_parameters h
    refine ⟨?_, ?_, ?_⟩
    · intro v hv p
      obtain ⟨m, hm, hread⟩ := hforms v hv
      exact extracts_of_eq hes (extract_eq hes hb hm hread p)
    · intro v m b' hm hread hsame p
      rw [hpayload] at hsame
      cases hsame
      exact extracts_of_eq hes (extract_eq hes hb hm hread p)
    · intro p₁ pr₁ key₁ cert₁ h₁ v v₁ hv hv₁ p c
      -- the parameters are those of the key, and so the other certificate has the same payload
      obtain ⟨es₁, b₁, hes₁, hb₁, -, hforms₁⟩ := certifies_parameters h₁
      obtain ⟨m, hm, hread⟩ := hforms v hv
      obtain ⟨m₁, hm₁, hread₁⟩ := hforms₁ v₁ hv₁
      cases hes.symm.trans hes₁
      rw [extract_eq hes hb hm hread, extract_eq hes hb₁ hm₁ hread₁]

/-- An agreement key, certified with a key on P-256: it is extracted from the encoding as such, and
not as an identity key. -/
theorem extract_exact_agreement :
    let key : PublicKey := .x25519 ⟨Bytes.zeros 32, rfl⟩
    ∃ cert b, (signPublicKey {} .standard (.privateKey (.p256 7) 0) (.publicKey key)).result
        = .ok cert ∧ cert.encode = .ok b ∧ extract {} .x25519 (.bytes b) = .ok key ∧
      Refused (extract {} .ed25519 (.bytes b)) "crv" 6 4 := by
  intro key
  obtain ⟨hissued, hexact⟩ := extract_exact {} .standard key
  obtain ⟨cert, hcert⟩ := hissued .es256 (.p256 7) 0 (by decide) (.es256 7) List.not_mem_nil
    (fun _ _ => by simp [key])
  obtain ⟨s, -, sk, -, payload, hsk, -, -, rfl⟩ := signPublicKey_eq_ok_iff.1 hcert
  obtain ⟨b, hb, -⟩ := encode_issue hsk 1 payload
  obtain ⟨hown, hother⟩ := (hexact _ _ hcert).1 (.bytes b) (.encoded hb rfl) {}
  exact ⟨_, b, hcert, hb, hown List.not_mem_nil, hother⟩

end Certificate

end DeviceTrust
