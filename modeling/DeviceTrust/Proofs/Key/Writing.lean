import DeviceTrust.Key.Codec
import DeviceTrust.Proofs.Cose.RoundTrip
import DeviceTrust.Proofs.Outcome

/-!
# The structured form of a public key

The parameters of a public key, written out (`PublicKey.parameters?`). Every public key but one on
the larger curve has them, and they are what the library makes of the key on a platform that has the
digest (`ofPublicKey_of_parameters?`).
-/

set_option autoImplicit false

namespace DeviceTrust

/-! ## Public keys -/

/-- **The parameters of a public key**, if it has a structured form: its type, its identifier, its
algorithm, its curve and its coordinates. -/
def PublicKey.parameters? : PublicKey → Option Entries
  | x25519 k => some (keyParameters .okp (Hash.sha256 k.bytes) .x25519
      ++ [(.int KeyLabel.x.number, .bytes k.bytes)])
  | ed25519 k => some (keyParameters .okp (Hash.sha256 k.bytes) .ed25519
      ++ [(.int KeyLabel.x.number, .bytes k.bytes)])
  | p256 x y => some (keyParameters .ec2 (Hash.sha256 (PublicKey.p256 x y).encoded) .p256
      ++ [(.int KeyLabel.x.number, .bytes (Bytes.ofNatBE Parameters.coordinateLength x)),
        (.int KeyLabel.y.number, .bytes (Bytes.ofNatBE Parameters.coordinateLength y))])
  | p384 _ _ => none

namespace PublicKey

variable {p : Platform} {k : PublicKey} {es : Entries}

/-- The labels of a public key's parameters are different small integers. -/
theorem labels_of_parameters? (h : k.parameters? = some es) :
    ∃ ns : List Int, es.labels = ns.map .int ∧ ns.Nodup ∧ ∀ n ∈ ns, -2 ^ 64 ≤ n ∧ n < 2 ^ 64 := by
  cases k with
  | x25519 _ | ed25519 _ =>
      cases h
      exact ⟨[1, 2, 3, -1, -2], rfl, by decide, by decide⟩
  | p256 _ _ =>
      cases h
      exact ⟨[1, 2, 3, -1, -2, -3], rfl, by decide, by decide⟩
  | p384 _ _ => cases h

/-- Under them there are small integers and byte strings of 32 bytes. -/
theorem contents_of_parameters? (h : k.parameters? = some es) :
    ∀ e ∈ es, (∃ n : Int, e.2 = .int n ∧ -2 ^ 64 ≤ n ∧ n < 2 ^ 64) ∨
      ∃ b : Bytes, e.2 = .bytes b ∧ b.length = 32 := by
  intro e he
  cases k with
  | x25519 key | ed25519 key =>
      cases h
      simp only [keyParameters, List.cons_append, List.nil_append, List.mem_cons,
        List.not_mem_nil, or_false] at he
      rcases he with rfl | rfl | rfl | rfl | rfl
      · exact .inl ⟨_, rfl, by decide⟩
      · exact .inr ⟨_, rfl, Hash.length_sha256 _⟩
      · exact .inl ⟨_, rfl, by decide⟩
      · exact .inl ⟨_, rfl, by decide⟩
      · exact .inr ⟨_, rfl, key.length_eq⟩
  | p256 _ _ =>
      cases h
      simp only [keyParameters, List.cons_append, List.nil_append, List.mem_cons,
        List.not_mem_nil, or_false] at he
      rcases he with rfl | rfl | rfl | rfl | rfl | rfl
      · exact .inl ⟨_, rfl, by decide⟩
      · exact .inr ⟨_, rfl, Hash.length_sha256 _⟩
      · exact .inl ⟨_, rfl, by decide⟩
      · exact .inl ⟨_, rfl, by decide⟩
      · exact .inr ⟨_, rfl, Bytes.length_ofNatBE _ _⟩
      · exact .inr ⟨_, rfl, Bytes.length_ofNatBE _ _⟩
  | p384 _ _ => cases h

/-- **The parameters of a public key can be handed over**, and come back as they are. -/
theorem portable_of_parameters? (h : k.parameters? = some es) (depth : Nat) :
    CoseKey.Portable depth ⟨es⟩ ∧ CoseKey.asRead ⟨es⟩ = ⟨es⟩ := by
  obtain ⟨ns, hl, hns, -⟩ := labels_of_parameters? h
  have hcontents := contents_of_parameters? h
  refine ⟨⟨CoseKey.normal_of_integers hl hns fun e he => ?_, fun e he => ?_, fun e he => ?_⟩, ?_⟩
  · rcases hcontents e he with ⟨n, hn, -⟩ | ⟨b, hb, -⟩
    · rw [hn]
      rfl
    · rw [hb]
      rfl
  · have hlabel : e.1 ∈ ns.map Value.int := hl ▸ List.mem_map_of_mem he
    obtain ⟨n, -, hn⟩ := List.mem_map.1 hlabel
    rw [← hn]
    exact .int n
  · rcases hcontents e he with ⟨n, hn, hfits⟩ | ⟨b, hb, -⟩
    · rw [hn]
      exact .int hfits
    · rw [hb]
      exact .bytes b
  · refine congrArg CoseKey.mk ((List.map_congr_left fun e he => ?_).trans (List.map_id es))
    have hback : Cbor.asRead e.2 false = e.2 := by
      rcases hcontents e he with ⟨n, hn, -⟩ | ⟨b, hb, -⟩
      · rw [hn]
        rfl
      · rw [hb]
        rfl
    exact Prod.ext rfl hback

theorem hasSecret_of_parameters? (h : k.parameters? = some es) : es.hasSecret = false := by
  cases k with
  | x25519 _ | ed25519 _ | p256 _ _ =>
      cases h
      rfl
  | p384 _ _ => cases h

theorem length_entry_of_parameters? (h : k.parameters? = some es) {e : Value × Value} (he : e ∈ es)
    {bk bv : Bytes} (hbk : Cbor.encode? e.1 = some bk) (hbv : Cbor.encode? e.2 = some bv) :
    bk.length + bv.length ≤ 50 := by
  obtain ⟨ns, hl, -, hfits⟩ := labels_of_parameters? h
  have hlabel : e.1 ∈ ns.map Value.int := hl ▸ List.mem_map_of_mem he
  obtain ⟨n, hn, hne⟩ := List.mem_map.1 hlabel
  rw [← hne] at hbk
  cases hbk
  have hle := Cbor.length_encodeInt_le (hfits n hn)
  rcases contents_of_parameters? h e he with ⟨m, hm, hmfits⟩ | ⟨c, hc, hlength⟩
  · rw [hm] at hbv
    cases hbv
    have hle' := Cbor.length_encodeInt_le hmfits
    omega
  · rw [hc] at hbv
    cases hbv
    have hle' := Cbor.length_encodeBytes_le c
    omega

/-- **The encoding of parameters of a public key is short**, if no more of them are taken than it
has. -/
theorem length_encode_of_subset (h : k.parameters? = some es) {fs : Entries}
    (hfs : ∀ e ∈ fs, e ∈ es) (hcount : fs.length ≤ es.length) {b : Bytes}
    (hb : CoseKey.encode ⟨fs⟩ = .ok b) : b.length ≤ 309 := by
  have hsix : es.length ≤ 6 := by
    cases k with
    | x25519 _ | ed25519 _ | p256 _ _ => cases h; simp [keyParameters]
    | p384 _ _ => cases h
  obtain ⟨bs, hbs, rfl⟩ := Option.map_eq_some_iff.1 (CoseKey.encode_eq_ok_iff.1 hb)
  have htotal := Cbor.length_encodeEntries?_le
    (fun e he bk bv => length_entry_of_parameters? h (hfs e he)) hbs
  have hhead := Cbor.length_head_le 5 fs.length
  show (Cbor.head 5 fs.length ++ bs).length ≤ 309
  rw [List.length_append]
  omega

theorem length_encode_of_parameters? (h : k.parameters? = some es) {b : Bytes}
    (hb : CoseKey.encode ⟨es⟩ = .ok b) : b.length ≤ 309 :=
  length_encode_of_subset h (fun _ he => he) (Nat.le_refl _) hb

end PublicKey

/-- **The structured form of a public key** consists of its parameters, wherever there is the
digest. -/
theorem CoseKey.ofPublicKey_eq {p : Platform} (hp : .sha256 ∉ p.missing) {k : PublicKey}
    {es : Entries} (h : k.parameters? = some es) : ofPublicKey p k = .ok ⟨es⟩ := by
  have hdigest : ∀ b, p.digest b = .ok (Hash.sha256 b) := by
    intro b
    simp [Platform.digest, Platform.require, hp]
  rw [← new_eq_of_normal (PublicKey.portable_of_parameters? h 0).1.normal]
  cases k with
  | x25519 k | ed25519 k =>
      cases h
      rw [ofPublicKey, ofRawBytes, hdigest]
      rfl
  | p256 x y =>
      cases h
      rw [ofPublicKey, ofCoordinates, PublicKey.digest, hdigest]
      rfl
  | p384 _ _ => cases h

theorem CoseKey.ofPublicKey_of_parameters? {p : Platform} (hp : p.missing = []) {k : PublicKey}
    {es : Entries} (h : k.parameters? = some es) : ofPublicKey p k = .ok ⟨es⟩ :=
  ofPublicKey_eq (by simp [hp]) h

/-- **The structured form of a public key has no other parameters**, on any platform. -/
theorem CoseKey.parameters?_of_ofPublicKey {p : Platform} {k : PublicKey} {c : CoseKey}
    (h : ofPublicKey p k = .ok c) : k.parameters? = some c.parameters := by
  have hdigest : ∀ {b d}, p.digest b = .ok d → .sha256 ∉ p.missing := by
    intro b d hd
    obtain ⟨_, hrequire, -⟩ := bind_eq_ok.1 hd
    intro hmissing
    simp [Platform.require, hmissing] at hrequire
  have hform : ∀ {es}, k.parameters? = some es → .sha256 ∉ p.missing →
      k.parameters? = some c.parameters := by
    intro es hes hp
    cases h.symm.trans (ofPublicKey_eq hp hes)
    exact hes
  cases k with
  | x25519 _ | ed25519 _ =>
      obtain ⟨_, hd, -⟩ := bind_eq_ok.1 h
      exact hform rfl (hdigest hd)
  | p256 _ _ =>
      obtain ⟨_, hd, -⟩ := bind_eq_ok.1 h
      exact hform rfl (hdigest hd)
  | p384 _ _ => cases h

end DeviceTrust
