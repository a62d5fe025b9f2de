import DeviceTrust.Payload
import DeviceTrust.Proofs.Cbor.Coercion
import Mathlib.Logic.ExistsUnique

/-!
# Encryption and decryption undo each other

Values of any sort are arguments of the cipher if they stand for bytes that it takes (`Takes`). On byte
strings of either sort, encryption gives a ciphertext exactly if the sizes of key and nonce are those
of the cipher and nothing is too long (`encrypt_eq_ok_iff`), and decryption gives a text exactly if,
besides, the cipher does (`decrypt_eq_ok_iff`). So the two are inverse to each other, and
what is decrypted is what was encrypted, and nothing else (`decrypt_inverts_encrypt`).

The greatest length bounds what is handed in: the text when it is encrypted, and the ciphertext with
its tag when it is decrypted.
-/

set_option autoImplicit false

namespace DeviceTrust

namespace Payload

/-! ## Arguments -/

/-- **The arguments are these byte strings.** -/
structure Holds (text aad key nonce : Value) (i : Input) : Prop where
  text : text.byteString? = some i.text
  aad : aad.byteString? = some i.aad
  key : key.byteString? = some i.key
  nonce : nonce.byteString? = some i.nonce

/-- **What the cipher takes**: a key of one of its sizes, a nonce of its size, and no more bytes than
it can work on. -/
structure Input.Fits (i : Input) : Prop where
  key : i.key.length ∈ Parameters.cipherKeyLengths
  nonce : i.nonce.length = Parameters.nonceLength
  text : i.text.length ≤ greatestLength
  aad : i.aad.length ≤ greatestLength

/-- **An argument is read as bytes that the cipher can work on.** -/
structure Gives (p : Platform) (v : Value) (b : Bytes) : Prop where
  standsFor : v.StandsFor b
  memory : ¬ v.Exhausting p.memory
  length : b.length ≤ greatestLength

/-- **The cipher works on this input** for these arguments, values of any sort. Key and nonce must have
elements, as many as the cipher asks for. -/
structure Takes (p : Platform) (text aad key nonce : Value) (i : Input) : Prop where
  keySize : ∃ n ∈ Parameters.cipherKeyLengths, key.length? = some n
  nonceSize : nonce.length? = some Parameters.nonceLength
  key : key.StandsFor i.key
  nonce : nonce.StandsFor i.nonce
  text : Gives p text i.text
  aad : Gives p aad i.aad

variable {p : Platform} {v text aad key nonce : Value} {i j : Input} {b : Bytes}

/-! ## Reading the arguments -/

theorem gives_iff : Gives p v b ↔
    ∃ source, v.toBytes p.memory = .ok source ∧ source.bytes = b ∧
      source.length ≤ greatestLength := by
  constructor
  · rintro ⟨h, hmemory, hlength⟩
    have hcount : (b.length : Int) ≤ Value.greatestSize := by
      unfold greatestLength at hlength
      unfold Value.greatestSize Value.greatestCount
      omega
    obtain ⟨source, hsource, rfl⟩ :=
      Value.exists_toBytes_of_standsFor h (h.not_uncountable hcount) hmemory
    exact ⟨source, hsource, rfl, by rwa [ByteSource.length_bytes] at hlength⟩
  · rintro ⟨source, hsource, rfl, hlength⟩
    obtain ⟨h, -, hmemory⟩ := Value.standsFor_of_toBytes hsource
    exact ⟨h, hmemory, by rwa [ByteSource.length_bytes]⟩

theorem gives_iff_of_byteString? {c : Bytes} (h : v.byteString? = some c) :
    Gives p v b ↔ b = c ∧ c.length ≤ greatestLength := by
  constructor
  · rintro ⟨hstands, -, hlength⟩
    obtain rfl := (Value.standsFor_iff_of_byteString? h).1 hstands
    exact ⟨rfl, hlength⟩
  · rintro ⟨rfl, hlength⟩
    exact ⟨.bytes h, Value.not_exhausting_of_wholeNumber? (Value.wholeNumber?_of_byteString? h),
      hlength⟩

/-- **The sizes of key and nonce**, whatever sort of value has them. -/
theorem checkSizes_eq_ok_iff_length? :
    checkSizes key nonce = .ok () ↔
      (∃ n ∈ Parameters.cipherKeyLengths, key.length? = some n) ∧
        nonce.length? = some Parameters.nonceLength := by
  unfold checkSizes
  constructor
  · intro hsizes
    obtain ⟨n, hkey, hsizes⟩ := bind_eq_ok.1 hsizes
    have hkey := Value.requireLength_eq_ok_iff.1 hkey
    split at hsizes
    · cases hsizes
    · rename_i hlisted
      obtain ⟨m, hnonce, hsizes⟩ := bind_eq_ok.1 hsizes
      have hnonce := Value.requireLength_eq_ok_iff.1 hnonce
      split at hsizes
      · cases hsizes
      · rename_i hsame
        have hsame : m = Parameters.nonceLength := by simpa using hsame
        exact ⟨⟨n, by simpa using hlisted, hkey⟩, hsame ▸ hnonce⟩
  · rintro ⟨⟨n, hlisted, hkey⟩, hnonce⟩
    have hcontains : ¬ (!Parameters.cipherKeyLengths.contains n) = true := by
      simpa using hlisted
    refine bind_eq_ok.2 ⟨n, Value.requireLength_eq_ok_iff.2 hkey, ?_⟩
    rw [if_neg hcontains]
    exact bind_eq_ok.2 ⟨_, Value.requireLength_eq_ok_iff.2 hnonce, if_neg (not_not_intro rfl)⟩

/-- **What the arguments are read as**, once the sizes are checked. -/
theorem takes_iff : Takes p text aad key nonce i ↔
    checkSizes key nonce = .ok () ∧ readInput p text aad key nonce = .ok i := by
  unfold readInput
  constructor
  · rintro ⟨⟨n, hlisted, hn⟩, hm, hkey, hnonce, htext, haad⟩
    -- key and nonce have a length, so how much memory there is makes no difference to them
    obtain ⟨k, hk, hkey⟩ := (Value.toBytes_eq_ok_iff_of_length? hn p.memory).2 hkey
    obtain ⟨m, hm', hnonce⟩ := (Value.toBytes_eq_ok_iff_of_length? hm p.memory).2 hnonce
    obtain ⟨t, ht, htext, htlength⟩ := gives_iff.1 htext
    obtain ⟨a, ha, haad, halength⟩ := gives_iff.1 haad
    obtain ⟨_, _, _, _⟩ := i
    cases hkey
    cases hnonce
    cases htext
    cases haad
    have hshort : ¬ (greatestLength < t.length || greatestLength < a.length) = true := by
      simpa using ⟨htlength, halength⟩
    refine ⟨checkSizes_eq_ok_iff_length?.2 ⟨⟨n, hlisted, hn⟩, hm⟩, ?_⟩
    rw [hk, hm', ht, ha]
    exact if_neg hshort
  · rintro ⟨hsizes, h⟩
    obtain ⟨⟨n, hlisted, hn⟩, hm⟩ := checkSizes_eq_ok_iff_length?.1 hsizes
    obtain ⟨k, hk, h⟩ := bind_eq_ok.1 h
    obtain ⟨m, hm', h⟩ := bind_eq_ok.1 h
    obtain ⟨t, ht, h⟩ := bind_eq_ok.1 h
    obtain ⟨a, ha, h⟩ := bind_eq_ok.1 h
    split at h
    · cases h
    · rename_i hshort
      simp only [Bool.or_eq_true, decide_eq_true_eq, not_or, Nat.not_lt] at hshort
      cases h
      exact ⟨⟨n, hlisted, hn⟩, hm, (Value.standsFor_of_toBytes hk).1,
        (Value.standsFor_of_toBytes hm').1, gives_iff.2 ⟨t, ht, rfl, hshort.1⟩,
        gives_iff.2 ⟨a, ha, rfl, hshort.2⟩⟩

/-- **Byte strings are taken as they are**, if the cipher takes their bytes. -/
theorem Holds.takes_iff (h : Holds text aad key nonce i) :
    Takes p text aad key nonce j ↔ j = i ∧ i.Fits := by
  have hkey := Value.requireLength_eq_ok_iff.1 (Value.requireLength_of_byteString? h.key)
  have hnonce := Value.requireLength_eq_ok_iff.1 (Value.requireLength_of_byteString? h.nonce)
  constructor
  · rintro ⟨⟨n, hlisted, hn⟩, hm, hkey', hnonce', htext, haad⟩
    obtain ⟨_, _, _, _⟩ := j
    obtain rfl := (Value.standsFor_iff_of_byteString? h.key).1 hkey'
    obtain rfl := (Value.standsFor_iff_of_byteString? h.nonce).1 hnonce'
    obtain ⟨rfl, hlength⟩ := (gives_iff_of_byteString? h.text).1 htext
    obtain ⟨rfl, hlength'⟩ := (gives_iff_of_byteString? h.aad).1 haad
    cases hkey.symm.trans hn
    exact ⟨rfl, hlisted, Option.some.inj (hnonce.symm.trans hm), hlength, hlength'⟩
  · rintro ⟨rfl, hfits⟩
    exact ⟨⟨_, hfits.key, hkey⟩, hnonce.trans (congrArg some hfits.nonce), .bytes h.key,
      .bytes h.nonce, (gives_iff_of_byteString? h.text).2 ⟨rfl, hfits.text⟩,
      (gives_iff_of_byteString? h.aad).2 ⟨rfl, hfits.aad⟩⟩

/-! ## The two operations -/

/-- **When the cipher gives a ciphertext, and which.** -/
theorem sealed_eq_ok_iff {c : Bytes} : sealed p text aad key nonce = .ok c ↔
    ∃ i, Takes p text aad key nonce i ∧ Gcm.encrypt i.key i.nonce i.aad i.text = c := by
  unfold sealed
  constructor
  · intro hc
    obtain ⟨_, hsizes, hc⟩ := bind_eq_ok.1 hc
    obtain ⟨i, hread, hc⟩ := bind_eq_ok.1 hc
    exact ⟨i, takes_iff.2 ⟨hsizes, hread⟩, Except.ok.inj hc⟩
  · rintro ⟨i, htakes, rfl⟩
    obtain ⟨hsizes, hread⟩ := takes_iff.1 htakes
    exact bind_eq_ok.2 ⟨(), hsizes, bind_eq_ok.2 ⟨i, hread, rfl⟩⟩

/-- **When the cipher gives a text, and which.** There must be room for the tag. -/
theorem unsealed_eq_ok_iff {t : Bytes} : unsealed p text aad key nonce = .ok t ↔
    ∃ i, Takes p text aad key nonce i ∧
      (∃ n, text.length? = some n ∧ Parameters.tagLength ≤ n) ∧
      Gcm.decrypt i.key i.nonce i.aad i.text = some t := by
  unfold unsealed
  constructor
  · intro ht
    obtain ⟨_, hsizes, ht⟩ := bind_eq_ok.1 ht
    obtain ⟨n, hn, ht⟩ := bind_eq_ok.1 ht
    split at ht
    · cases ht
    · rename_i hroom
      obtain ⟨i, hread, ht⟩ := bind_eq_ok.1 ht
      refine ⟨i, takes_iff.2 ⟨hsizes, hread⟩,
        ⟨n, Value.requireLength_eq_ok_iff.1 hn, Nat.le_of_not_lt hroom⟩, ?_⟩
      split at ht
      · rename_i t' hdecrypt
        cases ht
        exact hdecrypt
      · cases ht
  · rintro ⟨i, htakes, ⟨n, hn, hroom⟩, hdecrypt⟩
    obtain ⟨hsizes, hread⟩ := takes_iff.1 htakes
    refine bind_eq_ok.2 ⟨(), hsizes, bind_eq_ok.2 ⟨n, Value.requireLength_eq_ok_iff.2 hn, ?_⟩⟩
    rw [if_neg (Nat.not_lt.2 hroom)]
    refine bind_eq_ok.2 ⟨i, hread, ?_⟩
    rw [hdecrypt]
    rfl

/-- **When an encryption gives a ciphertext, and which.** -/
theorem encrypt_eq_ok_iff (h : Holds text aad key nonce i) (p : Platform) {c : Bytes} :
    encrypt p text aad key nonce = .ok c ↔
      i.Fits ∧ Gcm.encrypt i.key i.nonce i.aad i.text = c := by
  unfold encrypt
  rw [mapError_eq_ok, sealed_eq_ok_iff]
  constructor
  · rintro ⟨j, htakes, hc⟩
    obtain ⟨rfl, hfits⟩ := h.takes_iff.1 htakes
    exact ⟨hfits, hc⟩
  · rintro ⟨hfits, hc⟩
    exact ⟨i, h.takes_iff.2 ⟨rfl, hfits⟩, hc⟩

theorem result_decrypt (p : Platform) (ciphertext aad key nonce : Value) :
    (decrypt p ciphertext aad key nonce).result = (unsealed p ciphertext aad key nonce).mapError
      fun f => if isReported f then .decryption f else .fault f := by
  unfold decrypt
  cases unsealed p ciphertext aad key nonce with
  | ok t => rfl
  | error f =>
      show _ = Except.error (if isReported f then _ else _)
      dsimp only
      split
      · rfl
      · rfl

/-- **When a decryption gives a text, and which.** There must be room for the tag. -/
theorem decrypt_eq_ok_iff (h : Holds text aad key nonce i) (p : Platform) {t : Bytes} :
    (decrypt p text aad key nonce).result = .ok t ↔
      i.Fits ∧ Parameters.tagLength ≤ i.text.length ∧
        Gcm.decrypt i.key i.nonce i.aad i.text = some t := by
  have hlength := Value.requireLength_eq_ok_iff.1 (Value.requireLength_of_byteString? h.text)
  rw [result_decrypt, mapError_eq_ok, unsealed_eq_ok_iff]
  constructor
  · rintro ⟨j, htakes, ⟨n, hn, hroom⟩, hdecrypt⟩
    obtain ⟨rfl, hfits⟩ := h.takes_iff.1 htakes
    cases hlength.symm.trans hn
    exact ⟨hfits, hroom, hdecrypt⟩
  · rintro ⟨hfits, hroom, hdecrypt⟩
    exact ⟨i, h.takes_iff.2 ⟨rfl, hfits⟩, ⟨_, hlength, hroom⟩, hdecrypt⟩

/-! ## Inverse to each other -/

variable {c t : Bytes}

/-- A ciphertext that is not too long to be handed in is decrypted to its text. -/
theorem decrypt_of_encrypt (h : Holds text aad key nonce i) (p : Platform)
    (hc : encrypt p text aad key nonce = .ok c) (hv : v.byteString? = some c)
    (hlength : c.length ≤ greatestLength) : (decrypt p v aad key nonce).result = .ok i.text := by
  obtain ⟨hfits, rfl⟩ := (encrypt_eq_ok_iff h p).1 hc
  have hroom := Gcm.length_encrypt i.key i.nonce i.aad i.text
  refine (decrypt_eq_ok_iff (i := ⟨i.key, i.nonce, _, i.aad⟩) ⟨hv, h.aad, h.key, h.nonce⟩ p).2 ?_
  refine ⟨⟨hfits.key, hfits.nonce, hlength, hfits.aad⟩, ?_, Gcm.decrypt_encrypt _ _ _ _⟩
  show 16 ≤ (Gcm.encrypt i.key i.nonce i.aad i.text).length
  omega

theorem encrypt_of_decrypt (h : Holds v aad key nonce i) (p : Platform)
    (ht : (decrypt p v aad key nonce).result = .ok t) (htext : text.byteString? = some t) :
    encrypt p text aad key nonce = .ok i.text := by
  obtain ⟨hfits, -, hdecrypt⟩ := (decrypt_eq_ok_iff h p).1 ht
  have hpackage := Gcm.encrypt_of_decrypt hdecrypt
  refine (encrypt_eq_ok_iff (i := ⟨i.key, i.nonce, t, i.aad⟩) ⟨htext, h.aad, h.key, h.nonce⟩ p).2 ?_
  refine ⟨⟨hfits.key, hfits.nonce, ?_, hfits.aad⟩, hpackage⟩
  -- a text is shorter than its ciphertext
  have hlonger := Gcm.length_encrypt i.key i.nonce i.aad t
  have hlimit := hfits.text
  rw [hpackage] at hlonger
  show t.length ≤ greatestLength
  omega

/-- **Encryption and decryption are inverse to each other**, for a key of 16, 24 or 32 bytes and a
nonce of 12. A text has a ciphertext that is 16 bytes longer, and this is decrypted to the text
exactly if it is not too long itself. What a ciphertext is decrypted to is encrypted to this very
ciphertext; so what is accepted is what encryption makes, each of one text only. -/
theorem decrypt_inverts_encrypt (p : Platform) {aad key nonce : Value} {a k n : Bytes}
    (ha : aad.byteString? = some a) (hk : key.byteString? = some k)
    (hn : nonce.byteString? = some n) (hkey : k.length ∈ [16, 24, 32]) (hnonce : n.length = 12)
    (haad : a.length ≤ greatestLength) :
    (∀ text t, text.byteString? = some t → t.length ≤ greatestLength →
      ∃ c, encrypt p text aad key nonce = .ok c ∧ c.length = t.length + 16 ∧
        ∀ v, v.byteString? = some c →
          ((decrypt p v aad key nonce).result = .ok t ↔ c.length ≤ greatestLength)) ∧
    (∀ v c text t, v.byteString? = some c → text.byteString? = some t →
      (decrypt p v aad key nonce).result = .ok t → encrypt p text aad key nonce = .ok c) ∧
    ∀ v c, v.byteString? = some c → c.length ≤ greatestLength →
      ((∃ t, (decrypt p v aad key nonce).result = .ok t) ↔
        ∃! t, encrypt p (.bytes t) aad key nonce = .ok c) := by
  refine ⟨fun text t ht hlength => ?_, fun v c text t hv ht hdecrypt => ?_, fun v c hv hlength => ?_⟩
  · have hholds : Holds text aad key nonce ⟨k, n, t, a⟩ := ⟨ht, ha, hk, hn⟩
    have hencrypt : encrypt p text aad key nonce = .ok (Gcm.encrypt k n a t) :=
      (encrypt_eq_ok_iff hholds p).2 ⟨⟨hkey, hnonce, hlength, haad⟩, rfl⟩
    refine ⟨_, hencrypt, Gcm.length_encrypt k n a t, fun v hv => ⟨fun hdecrypt => ?_, ?_⟩⟩
    · have hholds' : Holds v aad key nonce ⟨k, n, Gcm.encrypt k n a t, a⟩ := ⟨hv, ha, hk, hn⟩
      exact ((decrypt_eq_ok_iff hholds' p).1 hdecrypt).1.text
    · exact decrypt_of_encrypt hholds p hencrypt hv
  · exact encrypt_of_decrypt (i := ⟨k, n, c, a⟩) ⟨hv, ha, hk, hn⟩ p hdecrypt ht
  · have hback : ∀ t, encrypt p (.bytes t) aad key nonce = .ok c →
        (decrypt p v aad key nonce).result = .ok t := fun t ht =>
      decrypt_of_encrypt (i := ⟨k, n, t, a⟩) ⟨rfl, ha, hk, hn⟩ p ht hv hlength
    constructor
    · rintro ⟨t, ht⟩
      refine ⟨t, encrypt_of_decrypt (i := ⟨k, n, c, a⟩) ⟨hv, ha, hk, hn⟩ p ht rfl, fun t' ht' => ?_⟩
      exact Except.ok.inj ((hback t' ht').symm.trans ht)
    · rintro ⟨t, ht, -⟩
      exact ⟨t, hback t ht⟩

/-- Sixteen zero bytes, under a key and a nonce of zero bytes and without associated data: the
ciphertext is decrypted, also from a buffer. -/
theorem decrypt_inverts_encrypt_zeros :
    let key : Value := .bytes (Bytes.zeros 16)
    let nonce : Value := .buffer (Bytes.zeros 12)
    let c : Bytes := [
      0x03, 0x88, 0xda, 0xce, 0x60, 0xb6, 0xa3, 0x92, 0xf3, 0x28, 0xc2, 0xb9, 0x71, 0xb2, 0xfe, 0x78,
      0xab, 0x6e, 0x47, 0xd4, 0x2c, 0xec, 0x13, 0xbd, 0xf5, 0x3a, 0x67, 0xb2, 0x12, 0x57, 0xbd, 0xdf]
    (decrypt {} (.buffer c) (.bytes []) key nonce).result = .ok (Bytes.zeros 16) ∧
      encrypt {} (.bytes (Bytes.zeros 16)) (.bytes []) key nonce = .ok c := by
  intro key nonce c
  have hinverse := decrypt_inverts_encrypt {} (show (Value.bytes []).byteString? = some [] from rfl)
    (show key.byteString? = some (Bytes.zeros 16) from rfl)
    (show nonce.byteString? = some (Bytes.zeros 12) from rfl) (by decide) rfl (by decide)
  obtain ⟨c', hencrypt, -, hdecrypt⟩ := hinverse.1 (.bytes (Bytes.zeros 16)) _ rfl (by decide)
  have hc : Gcm.encrypt (Bytes.zeros 16) (Bytes.zeros 12) [] (Bytes.zeros 16) = c := by
    decide +kernel
  have hc' : c' = c := by
    have hholds : Holds (.bytes (Bytes.zeros 16)) (.bytes []) key nonce
        ⟨Bytes.zeros 16, Bytes.zeros 12, Bytes.zeros 16, []⟩ := ⟨rfl, rfl, rfl, rfl⟩
    exact ((encrypt_eq_ok_iff hholds {}).1 hencrypt).2.symm.trans hc
  rw [hc'] at hencrypt hdecrypt
  exact ⟨(hdecrypt (.buffer c) rfl).2 (by decide), hencrypt⟩

end Payload

end DeviceTrust
