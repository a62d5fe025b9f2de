import DeviceTrust.Proofs.Cose.Verification

/-!
# What a provider signs

A suite signs with the private keys of its own kind (`Suite.SignsWith`), and a provider that has the
suite finds it by such a key. The message that it makes (`Suite.issue`) has the suite's header, no
unprotected header, and a signature of 64 bytes over the covered bytes.
-/

set_option autoImplicit false

namespace DeviceTrust

/-- **The private keys that a suite signs with.** -/
inductive Suite.SignsWith : Suite → PrivateKey → Prop
  | eddsa (key : RawKey) : SignsWith .eddsa (.ed25519 key)
  | es256 (scalar : Nat) : SignsWith .es256 (.p256 scalar)

def PrivateKey.signature (nonce : Nat) (data : Bytes) : PrivateKey → Bytes
  | ed25519 k => Ed25519.sign k.bytes data
  | p256 d => let rs := Ecdsa.sign d nonce data; Ecdsa.join rs.1 rs.2
  | x25519 _ | p384 _ | faultySigner _ | faultyExchange => []

namespace Suite

variable {s : Suite} {k : PrivateKey}

/-- The bytes of the protected header of a suite: the map of the label 1 to its number. -/
def header : Suite → Bytes
  | eddsa => [0xa1, 0x01, 0x27] | es256 => [0xa1, 0x01, 0x26]

theorem headerOf_eq (s : Suite) : Provider.headerOf s = .ok s.header := by
  cases s <;> rfl

theorem encodesMap_header (s : Suite) :
    Cbor.EncodesMap s.header [(.int Parameters.algorithmLabel, .int s.number)] := by
  cases s <;> exact ⟨.plain, rfl⟩

/-- **The header of a suite names its algorithm.** -/
theorem names_header (s : Suite) : Header.Names s.header s.number :=
  ⟨_, .int s.number, s.encodesMap_header, if_pos (Value.int_agrees_int.2 rfl), rfl⟩

theorem sign_of_signsWith (h : s.SignsWith k) (nonce : Nat) (data : Bytes) (mark : Mark) :
    s.sign nonce (.bytes data) (.privateKey k mark) = .ok (k.signature nonce data) := by
  cases h <;> rfl

theorem length_signature (h : s.SignsWith k) (nonce : Nat) (data : Bytes) :
    (k.signature nonce data).length = 64 := by
  cases h with
  | eddsa key => exact Ed25519.length_sign _ _
  | es256 d => exact Ecdsa.length_join _ _

/-- **What a suite signs, it signs with a key of its own**: of the keys that it is found by, one that
is out of order gives no signature. -/
theorem exists_signsWith_of_sign {nonce : Nat} {data key : Value} {signature : Bytes}
    (haccepts : s.accepts key = true) (hsign : s.sign nonce data key = .ok signature) :
    ∃ k mark, s.SignsWith k ∧ key = .privateKey k mark := by
  cases key with
  | privateKey k mark =>
      cases k with
      | ed25519 raw =>
          cases s with
          | eddsa => exact ⟨_, mark, .eddsa raw, rfl⟩
          | es256 => cases haccepts
      | p256 d =>
          cases s with
          | eddsa => cases haccepts
          | es256 => exact ⟨_, mark, .es256 d, rfl⟩
      | faultySigner fault => cases s <;> cases hsign
      | x25519 _ | p384 _ | faultyExchange => cases s <;> cases haccepts
  | _ => cases s <;> cases haccepts

/-- No other suite signs with the key. -/
theorem accepts_iff (h : s.SignsWith k) (s' : Suite) (mark : Mark) :
    s'.accepts (.privateKey k mark) = true ↔ s' = s := by
  cases h <;> cases s' <;> simp [accepts]

theorem eq_of_accepts {key : Value} (s s' : Suite) (h : s.accepts key = true)
    (h' : s'.accepts key = true) : s = s' := by
  cases key with
  | privateKey k _ =>
      cases k with
      | ed25519 _ | faultySigner _ | p256 _ =>
          cases s <;> cases s' <;> simp_all [accepts]
      | _ => cases s <;> cases h
  | _ => cases s <;> cases h

def issue (s : Suite) (k : PrivateKey) (nonce : Nat) (payload : Bytes) : SignedMessage :=
  ⟨.bytes s.header, .map .plain [], .bytes payload,
    .bytes (k.signature nonce (SignedMessage.sigStructure s.header [] payload))⟩

theorem wellFormed_issue (s : Suite) (k : PrivateKey) (nonce : Nat) (payload : Bytes) :
    (s.issue k nonce payload).WellFormed :=
  .intro (.inr ⟨_, s.encodesMap_header⟩)

end Suite

namespace Provider

variable {pr : Provider} {s : Suite} {k : PrivateKey}

/-- A provider finds a suite by a private key exactly if it has the suite and the suite signs with
the key. -/
theorem forPrivateKey_eq_ok_iff {key : Value} :
    pr.forPrivateKey key = .ok s ↔ s ∈ pr.suites ∧ s.accepts key = true := by
  rw [← Suite.find?_eq_some_iff Suite.eq_of_accepts]
  unfold forPrivateKey
  split <;> simp [*]

theorem forPrivateKey_eq (hs : s ∈ pr.suites) (hk : s.SignsWith k) (mark : Mark) :
    pr.forPrivateKey (.privateKey k mark) = .ok s :=
  forPrivateKey_eq_ok_iff.2 ⟨hs, (Suite.accepts_iff hk s mark).2 rfl⟩

/-- **A provider signs with every key of its suites.** -/
theorem sign_eq (p : Platform) (hs : s ∈ pr.suites) (hk : s.SignsWith k) (mark : Mark)
    (payload : Bytes) :
    pr.sign p (.bytes payload) (.privateKey k mark) = .ok (s.issue k p.nonce payload) := by
  unfold sign
  rw [forPrivateKey_eq hs hk]
  refine bind_eq_ok.2 ⟨s, rfl, bind_eq_ok.2 ⟨s.header, s.headerOf_eq, ?_⟩⟩
  refine bind_eq_ok.2 ⟨_, SignedMessage.signedBytes_bytes s.header [] payload, ?_⟩
  rw [Suite.sign_of_signsWith hk]
  rfl

/-- **A payload is signed with a key of one of the suites**, and gives the message of this suite. -/
theorem sign_eq_ok_iff {p : Platform} {payload : Bytes} {key : Value} {m : SignedMessage} :
    pr.sign p (.bytes payload) key = .ok m ↔
      ∃ s ∈ pr.suites, ∃ k mark, s.SignsWith k ∧ key = .privateKey k mark ∧
        m = s.issue k p.nonce payload := by
  constructor
  · intro h
    have hsigned := h
    obtain ⟨s, hs, h⟩ := bind_eq_ok.1 h
    obtain ⟨header, -, h⟩ := bind_eq_ok.1 h
    obtain ⟨data, -, h⟩ := bind_eq_ok.1 h
    obtain ⟨hmem, haccepts⟩ := forPrivateKey_eq_ok_iff.1 hs
    have hsignature : ∃ signature, s.sign p.nonce (.bytes data) key = .ok signature := by
      cases hsign : s.sign p.nonce (.bytes data) key with
      | ok signature => exact ⟨signature, rfl⟩
      | error f =>
          rw [hsign] at h
          dsimp only at h
          split at h <;> cases h
    obtain ⟨signature, hsign⟩ := hsignature
    obtain ⟨k, mark, hk, rfl⟩ := Suite.exists_signsWith_of_sign haccepts hsign
    rw [sign_eq p hmem hk] at hsigned
    exact ⟨s, hmem, k, mark, hk, rfl, (Except.ok.inj hsigned).symm⟩
  · rintro ⟨s, hs, k, mark, hk, rfl, rfl⟩
    exact sign_eq p hs hk mark payload

end Provider

end DeviceTrust
