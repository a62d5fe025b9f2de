import DeviceTrust.Bytes.Lemmas
import DeviceTrust.Proofs.Cose.Signing

/-!
# Signatures on P-256 as two halves

A signature on P-256 is two numbers, each in 32 bytes. Both numbers are below the order of the curve
and fit, so the 64 bytes and the pair of numbers are made of each other, leading zeros included
(`Ecdsa.split?_eq_some_iff`). What is signed is thus verified, and any byte string gets a verdict:
it is valid exactly if it has 64 bytes, no half is zero and the primitive accepts the pair
(`Suite.es256_signature_exact`).
-/

set_option autoImplicit false

namespace DeviceTrust

/-! ## Halves -/

namespace Ecdsa

variable {r s x y d nonce : Nat} {signature message : Bytes}

/-- **Two numbers that fit are the halves of what they make**, however many zeros they begin
with. -/
theorem split?_join (hr : r < 2 ^ 256) (hs : s < 2 ^ 256) : split? (join r s) = some (r, s) := by
  have hfirst : (join r s).take 32 = Bytes.ofNatBE 32 r :=
    List.take_left' (Bytes.length_ofNatBE 32 r)
  have hsecond : (join r s).drop 32 = Bytes.ofNatBE 32 s :=
    List.drop_left' (Bytes.length_ofNatBE 32 r)
  have hwidth : (256 : Nat) ^ 32 = 2 ^ 256 := by decide
  unfold split?
  rw [if_pos (length_join r s), hfirst, hsecond, Bytes.toNatBE_ofNatBE (hwidth ▸ hr),
    Bytes.toNatBE_ofNatBE (hwidth ▸ hs)]

/-- **The 64-byte form of a pair is its own**: the pair is read from these bytes and no other. -/
theorem split?_eq_some_iff (hr : r < 2 ^ 256) (hs : s < 2 ^ 256) :
    split? signature = some (r, s) ↔ signature = join r s := by
  constructor
  · intro h
    unfold split? at h
    split at h
    · rename_i hlength
      have hpair := Prod.mk.inj (Option.some.inj h)
      have hfirst := Bytes.ofNatBE_toNatBE (signature.take 32)
      have hsecond := Bytes.ofNatBE_toNatBE (signature.drop 32)
      rw [List.length_take, hlength, hpair.1] at hfirst
      rw [List.length_drop, hlength, hpair.2] at hsecond
      calc signature = signature.take 32 ++ signature.drop 32 := (List.take_append_drop 32 _).symm
        _ = join r s := by rw [← hfirst, ← hsecond]; rfl
    · cases h
  · rintro rfl
    exact split?_join hr hs

/-- What the primitive accepts is two numbers from 1 up to the order of the curve. -/
theorem range_of_verify (h : verify x y message r s = true) :
    (0 < r ∧ r < p256.order) ∧ 0 < s ∧ s < p256.order := by
  unfold verify at h
  simp only [Bool.and_eq_true, decide_eq_true_eq] at h
  exact ⟨⟨h.1.1.1.1, h.1.1.1.2⟩, h.1.1.2, h.1.2⟩

theorem lt_of_lt_order {n : Nat} (h : n < p256.order) : n < 2 ^ 256 :=
  h.trans (by decide)

theorem sign_lt (d nonce : Nat) (message : Bytes) :
    (sign d nonce message).1 < 2 ^ 256 ∧ (sign d nonce message).2 < 2 ^ 256 := by
  have hpositive : 0 < p256.order := by decide
  exact ⟨lt_of_lt_order (Nat.mod_lt _ hpositive), lt_of_lt_order (Nat.mod_lt _ hpositive)⟩

/-- **What a byte string is a signature by**: its length, and its two halves. -/
theorem verifyBytes_eq_true_iff :
    verifyBytes x y message signature = true ↔ signature.length = 64 ∧
      verify x y message (Bytes.toNatBE (signature.take 32)) (Bytes.toNatBE (signature.drop 32))
        = true := by
  unfold verifyBytes split?
  by_cases hlength : signature.length = 64
  · simp [hlength]
  · simp [hlength]

theorem verifyBytes_join (hr : r < 2 ^ 256) (hs : s < 2 ^ 256) :
    verifyBytes x y message (join r s) = verify x y message r s := by
  unfold verifyBytes
  rw [split?_join hr hs]

end Ecdsa

/-! ## The suite -/

namespace Suite

variable {data v : Value} {message b : Bytes}

theorem es256_verify_of_byteString? (hdata : data.byteString? = some message)
    (hv : v.byteString? = some b) (x y : Nat) :
    es256.verify data v (.publicKey (.p256 x y)) = .ok (Ecdsa.verifyBytes x y message b) := by
  have hverdict := es256_verify_bytes message b x y
  cases data with
  | bytes _ | buffer _ =>
      cases hdata
      cases v with
      | bytes _ | buffer _ => cases hv; exact hverdict
      | _ => cases hv
  | _ => cases hdata

theorem es256_sign_of_byteString? (hdata : data.byteString? = some message) (d nonce : Nat)
    (mark : Mark) :
    es256.sign nonce data (.privateKey (.p256 d) mark)
      = .ok (Ecdsa.join (Ecdsa.sign d nonce message).1 (Ecdsa.sign d nonce message).2) := by
  cases data with
  | bytes _ | buffer _ => cases hdata; rfl
  | _ => cases hdata

/-- **Signatures on P-256 are exact.** Take any byte string of data, of either sort. Every scalar
signs it, with 64 bytes that hold the very pair of the signer; if the primitive accepts this pair
under the key's own public key, the signature is valid under it. So is the form of any pair that the
primitive accepts, however many zeros either number begins with. Numbers below 2²⁵⁶ are read from
the 64 bytes that they make, and from no others. Every byte string gets a verdict under any key on
the curve: it is valid exactly if it has 64 bytes, neither half is zero and the primitive accepts
the two. -/
theorem es256_signature_exact (hdata : data.byteString? = some message) :
    (∀ (d nonce : Nat) (mark : Mark), ∃ signature,
      es256.sign nonce data (.privateKey (.p256 d) mark) = .ok signature ∧
      signature.length = 64 ∧ Ecdsa.split? signature = some (Ecdsa.sign d nonce message) ∧
      ∀ x y, (PrivateKey.p256 d).publicKey? = some (.p256 x y) →
        Ecdsa.verify x y message (Ecdsa.sign d nonce message).1 (Ecdsa.sign d nonce message).2
            = true →
          ∀ v, v.byteString? = some signature →
            es256.verify data v (.publicKey (.p256 x y)) = .ok true) ∧
    (∀ x y r s, Ecdsa.verify x y message r s = true →
      ∀ v, v.byteString? = some (Ecdsa.join r s) →
        es256.verify data v (.publicKey (.p256 x y)) = .ok true) ∧
    (∀ r s, r < 2 ^ 256 → s < 2 ^ 256 →
      ∀ signature, Ecdsa.split? signature = some (r, s) ↔ signature = Ecdsa.join r s) ∧
    ∀ v b x y, v.byteString? = some b → ∃ valid,
      es256.verify data v (.publicKey (.p256 x y)) = .ok valid ∧
        let r := Bytes.toNatBE (b.take 32)
        let s := Bytes.toNatBE (b.drop 32)
        (valid = true ↔ b.length = 64 ∧ r ≠ 0 ∧ s ≠ 0 ∧ Ecdsa.verify x y message r s = true) := by
  have haccepted : ∀ x y r s, Ecdsa.verify x y message r s = true →
      ∀ v, v.byteString? = some (Ecdsa.join r s) →
        es256.verify data v (.publicKey (.p256 x y)) = .ok true := by
    intro x y r s hpair v hv
    -- a pair that verifies is below the order, so each half fits its 32 bytes
    obtain ⟨⟨-, hr⟩, -, hs⟩ := Ecdsa.range_of_verify hpair
    rw [es256_verify_of_byteString? hdata hv, Ecdsa.verifyBytes_join (Ecdsa.lt_of_lt_order hr)
      (Ecdsa.lt_of_lt_order hs), hpair]
  refine ⟨?_, haccepted, ?_, ?_⟩
  · intro d nonce mark
    obtain ⟨hr, hs⟩ := Ecdsa.sign_lt d nonce message
    refine ⟨_, es256_sign_of_byteString? hdata d nonce mark, Ecdsa.length_join _ _,
      Ecdsa.split?_join hr hs, ?_⟩
    intro x y _ hlaw v hv
    exact haccepted x y _ _ hlaw v hv
  · intro r s hr hs signature
    exact Ecdsa.split?_eq_some_iff hr hs
  · intro v b x y hv
    refine ⟨_, es256_verify_of_byteString? hdata hv x y, ?_⟩
    rw [Ecdsa.verifyBytes_eq_true_iff]
    constructor
    · rintro ⟨hlength, hpair⟩
      obtain ⟨⟨hr, -⟩, hs, -⟩ := Ecdsa.range_of_verify hpair
      exact ⟨hlength, Nat.ne_of_gt hr, Nat.ne_of_gt hs, hpair⟩
    · rintro ⟨hlength, -, -, hpair⟩
      exact ⟨hlength, hpair⟩

/-- A signature whose first number is short: it begins with a zero, and is valid. -/
theorem es256_signature_exact_short :
    let pub : PublicKey := .p256 (p256.publicOf 7).1 (p256.publicOf 7).2
    ∃ signature, es256.sign 379 (.buffer []) (.privateKey (.p256 7) 0) = .ok signature ∧
      signature.head? = some 0 ∧
      es256.verify (.buffer []) (.bytes signature) (.publicKey pub) = .ok true := by
  intro pub
  have hlaw : Ecdsa.verify (p256.publicOf 7).1 (p256.publicOf 7).2 []
      (Ecdsa.sign 7 379 []).1 (Ecdsa.sign 7 379 []).2 = true := by
    set_option maxRecDepth 100000 in
    decide +kernel
  have hshort : (Ecdsa.join (Ecdsa.sign 7 379 []).1 (Ecdsa.sign 7 379 []).2).head? = some 0 := by
    set_option maxRecDepth 100000 in
    decide +kernel
  have hexact := es256_signature_exact (show (Value.buffer []).byteString? = some [] from rfl)
  obtain ⟨signature, hsign, -, hpair, hvalid⟩ := hexact.1 7 379 0
  obtain ⟨hr, hs⟩ := Ecdsa.sign_lt 7 379 []
  refine ⟨signature, hsign, ?_, hvalid _ _ rfl hlaw _ rfl⟩
  rw [(Ecdsa.split?_eq_some_iff hr hs).1 hpair]
  exact hshort

end Suite

end DeviceTrust
