import DeviceTrust.Proofs.Certificate.Built

/-!
# Secret parts are not published

A key is published in two places: as the content of a certificate and as the first entry of a chain.
In both it is a public structured form, which has scalar labels and no secret part
(`CoseKey.isPublic_of_ofValue`), and a reader of the bytes finds none in it either, whatever stands
under its labels. But for the secret part the entries are those that were handed over
(`Chain.published_without_secret`).
-/

set_option autoImplicit false

namespace DeviceTrust

/-! ## Values with scalar labels -/

/-- **A value with scalar labels**: if it is a map or a structured key, each of its labels is null, a
boolean, a number, a text or a byte string. (A tag as a label can be read back as a number, and so as
the label of the secret part.) -/
def Value.ScalarLabels (v : Value) : Prop :=
  ∀ es, (v = .coseKey es ∨ ∃ flavour, v = .map flavour es) → ∀ e ∈ es, IsScalar e.1

/-- **The entries of a map or a structured key** with scalar labels. None is repeated in it, unless it
is the label of the secret part. -/
inductive HasEntries : Value → Entries → Prop
  | map (flavour : MapFlavour) {es : Entries} (hl : ∀ e ∈ es, IsScalar e.1)
      (hd : es.withoutSecret.Distinct) : HasEntries (.map flavour es) es
  | key {k : CoseKey} (hk : k.Normal) (hl : ∀ e ∈ k.parameters, IsScalar e.1) :
      HasEntries k.toValue k.parameters

namespace HasEntries

variable {v : Value} {es : Entries}

theorem isScalar (h : HasEntries v es) : ∀ e ∈ es, IsScalar e.1 := by
  cases h with
  | map _ hl _ => exact hl
  | key _ hl => exact hl

theorem distinct (h : HasEntries v es) : es.withoutSecret.Distinct := by
  cases h with
  | map _ _ hd => exact hd
  | key hk _ => exact hk.distinct.sublist (List.filter_sublist.map _)

theorem scalarLabels (h : HasEntries v es) : v.ScalarLabels := by
  rintro fs (hv | ⟨flavour, hv⟩) <;> cases h <;> cases hv <;> assumption

end HasEntries

/-! ## Public structured forms -/

namespace CoseKey

variable {p : Platform} {k : CoseKey} {v : Value} {es : Entries}

/-- The structured form of a public key has integers as labels, and none for a secret part. -/
theorem isPublic_of_ofPublicKey {key : PublicKey} (h : ofPublicKey p key = .ok k) :
    k.parameters.IsPublic := by
  cases key with
  | x25519 _ | ed25519 _ =>
      obtain ⟨identifier, -, h⟩ := bind_eq_ok.1 h
      cases h
      refine isPublic_new fun e he => ?_
      simp only [keyParameters, List.cons_append, List.nil_append, List.mem_cons, List.not_mem_nil,
        or_false] at he
      rcases he with rfl | rfl | rfl | rfl | rfl <;> exact ⟨.int _, rfl⟩
  | p256 _ _ =>
      obtain ⟨identifier, -, h⟩ := bind_eq_ok.1 h
      cases h
      refine isPublic_new fun e he => ?_
      simp only [keyParameters, List.cons_append, List.nil_append, List.mem_cons, List.not_mem_nil,
        or_false] at he
      rcases he with rfl | rfl | rfl | rfl | rfl | rfl <;> exact ⟨.int _, rfl⟩
  | p384 _ _ => cases h

/-- **A public structured form has no secret part**, whatever it is made of. -/
theorem hasPrivate_of_ofValue (h : ofValue p v = .ok k) : k.hasPrivate = false := by
  cases v with
  | publicKey key => exact (isPublic_of_ofPublicKey h).hasSecret
  | coseKey _ | map _ _ =>
      cases h
      exact Entries.hasSecret_withoutSecret _
  | _ => cases h

/-- **Making it of itself changes nothing.** -/
theorem ofValue_toValue (h : ofValue p v = .ok k) (q : Platform) : ofValue q k.toValue = .ok k := by
  have hpublic : k.publicKey = k :=
    congrArg CoseKey.mk (Entries.withoutSecret_eq_self (hasPrivate_of_ofValue h))
  show Except.ok k.publicKey = _
  rw [hpublic]

/-- **A public structured form has scalar labels** if it is made of some. -/
theorem isPublic_of_ofValue (hv : v.ScalarLabels) (h : ofValue p v = .ok k) :
    k.parameters.IsPublic := by
  cases v with
  | publicKey key => exact isPublic_of_ofPublicKey h
  | coseKey es =>
      cases h
      exact Entries.isPublic_withoutSecret (hv es (.inl rfl))
  | map flavour es =>
      cases h
      exact Entries.isPublic_withoutSecret (isScalar_new (hv es (.inr ⟨flavour, rfl⟩)))
  | _ => cases h

/-- **It has the entries it is made of**, in their order, but for the secret part. -/
theorem ofValue_of_hasEntries (h : HasEntries v es) :
    ofValue p v = .ok ⟨es.withoutSecret.map fun e => (e.1.plainNumber, e.2.plainNumber)⟩ := by
  rw [← publicKey_new h.isScalar h.distinct]
  cases h with
  | map => rfl
  | key hk _ =>
      rw [new_eq_of_normal hk]
      rfl

end CoseKey

/-! ## Certificates -/

namespace Certificate

variable {p : Platform} {pr : Provider} {signer target : Value} {m : SignedMessage} {k : CoseKey}
  {es : Entries} {payload : Bytes}

/-- A certificate that is signed certifies the encoding of a public structured form. -/
theorem exists_payload (h : (signPublicKey p pr signer target).result = .ok m) :
    ∃ k payload, CoseKey.ofValue p target = .ok k ∧
      Cbor.encode? (.map .plain k.parameters) = some payload ∧ m.payload = .bytes payload := by
  obtain ⟨payload, signature, s, hcontent, rfl⟩ := signPublicKey_eq_ok h
  obtain ⟨k, hk, hencode⟩ := exists_of_content_eq_ok hcontent
  exact ⟨k, payload, hk, CoseKey.encode_eq_ok_iff.1 hencode, rfl⟩

/-- **The key in a certificate has no secret part** if none was certified. -/
theorem hasPrivate_of_certifiedKey (h : es.IsPublic)
    (hpayload : Cbor.encode? (.map .plain es) = some payload) (hlength : payload.length < 2 ^ 64)
    (hm : m.payload = .bytes payload) (hk : certifiedKey m = .ok k) : k.hasPrivate = false := by
  rw [certifiedKey, hm] at hk
  exact CoseKey.hasPrivate_of_decode h hpayload hlength hk

end Certificate

/-! ## Chains -/

namespace Chain

variable {p q : Platform} {pr : Provider} {signer device published w : Value} {k : CoseKey}
  {header payload signature : Bytes} {chain : List Value}

theorem publishedKey_of_hasEntries {es : Entries} (h : HasEntries published es) (root : Value) :
    publishedKey root published = .ok published := by
  cases h <;> rfl

theorem length_payload_le {b : Bytes}
    (h : Cbor.encode? (.tag Parameters.messageTag
      (.list [.bytes header, .map .plain [], .bytes payload, .bytes signature])) = some b) :
    payload.length ≤ b.length := by
  have hencode := SignedMessage.encode_eq_ok_iff.2
    ⟨_, SignedMessage.toTagged_eq (.bytes header) (.bytes payload) (.bytes signature) .plain [], h⟩
  cases (SignedMessage.encode_eq header payload signature).symm.trans hencode
  simp only [Cbor.encodeBytes, List.length_append]
  omega

/-- **What is read of a chain** are an entry that is read of the published key, whatever its parameters
are, and the tagged array of the certificate. -/
theorem exists_entries_of_readAs
    (h : Cbor.ReadAs Cbor.depthLimit false (.list (wireEntries k header payload signature false)) w) :
    ∃ inner root, Cbor.ReadAs inner false (.map .plain k.parameters) root ∧
      payload.length < 2 ^ 64 ∧
      w = .list [root, .tag Parameters.messageTag (.tuple [.bytes header, Cbor.mapOf true [],
        .bytes payload, .bytes signature])] := by
  obtain ⟨inner, ws, rfl, hdepth, hentries⟩ := h.exists_items
  obtain rfl : inner = 399 := by
    have hlimit := hdepth (List.cons_ne_nil _ _)
    unfold Cbor.depthLimit at hlimit
    omega
  unfold wireEntries at hentries
  obtain ⟨root, _, hroot, hothers, rfl⟩ := List.forall₂_cons_left_iff.1 hentries
  obtain ⟨tagged, _, htagged, hnone, rfl⟩ := List.forall₂_cons_left_iff.1 hothers
  cases hnone
  have hplain := (plain_tagged header payload signature).mono (by decide : 2 ≤ 399)
  obtain rfl := htagged.eq_asRead hplain
  obtain ⟨b, -, -, hb, hlength, -⟩ := htagged
  exact ⟨399, root, hroot, Nat.lt_of_le_of_lt (length_payload_le hb) hlength, rfl⟩

/-- **No key in a chain on the wire has a secret part**: the first entry if the published key has none,
and what the message in the second certifies if that has none. -/
theorem hasPrivate_of_readAs {s : Suite} (hroot : k.parameters.IsPublic)
    (h : Cbor.ReadAs Cbor.depthLimit false (.list (wireEntries k s.header payload signature false))
      w) :
    ∃ root certificate, w.items? = some [root, certificate] ∧
      (∀ k, CoseKey.decode root = .ok k → k.hasPrivate = false) ∧
      ∀ es : Entries, es.IsPublic → Cbor.encode? (.map .plain es) = some payload →
        ∀ m k, SignedMessage.decode certificate = .ok m → Certificate.certifiedKey m = .ok k →
          k.hasPrivate = false := by
  obtain ⟨inner, root, hread, hlength, rfl⟩ := exists_entries_of_readAs h
  refine ⟨root, _, rfl, fun k hk => CoseKey.hasPrivate_of_readAs hroot hread hk,
    fun es hes hpayload m k hm hk => ?_⟩
  -- there is one way to read the tagged array, and it gives the content of the certificate
  have hmessage := holdsMessage_tagged s payload signature true
  obtain rfl := SignedMessage.holdsMessage_unique (SignedMessage.decode_eq_ok_iff.1 hm) hmessage
  exact Certificate.hasPrivate_of_certifiedKey hes hpayload hlength rfl hk

/-- **Secret parts are never published.** Hand over a map or a structured key, with the label −4 in any
spelling and any place. If a certificate is signed for it, its content is the encoding of the other
entries, in their order; if a chain is built that publishes it, the first entry is the map of these, in
which plain numbers stand for named ones. If the lengths can be counted, no key that is decoded from
the content or from the encoded chain has a secret part; the device's key has to have scalar labels
for this as well.

The public structured form of anything is made of itself as it is. -/
theorem published_without_secret (p q : Platform) (pr : Provider) (signer device : Value) {m : Value}
    {es : Entries} (h : HasEntries m es) :
    let shown := es.filter fun e => !e.1.same (.int (-4))
    (∀ cert, (Certificate.signPublicKey p pr signer m).result = .ok cert →
      ∃ payload, cert.payload = .bytes payload ∧
        Cbor.encode? (.map .plain shown) = some payload ∧
        ((payload.length : Int) ≤ Value.greatestCount →
          ∀ k, Certificate.certifiedKey cert = .ok k → k.hasPrivate = false)) ∧
    (∀ chain, (build p pr signer device m).result = .ok chain →
      chain.head? = some (.map .plain (shown.map fun e => (e.1.plainNumber, e.2.plainNumber))) ∧
      ∀ b w, encode (.list chain) = .ok b → (b.length : Int) ≤ Value.greatestCount →
        Cbor.decode? b = some w →
          ∃ root certificate, w.items? = some [root, certificate] ∧
            (∀ k, CoseKey.decode root = .ok k → k.hasPrivate = false) ∧
            (device.ScalarLabels → ∀ cert k, SignedMessage.decode certificate = .ok cert →
              Certificate.certifiedKey cert = .ok k → k.hasPrivate = false)) ∧
    ∀ v k, CoseKey.ofValue p v = .ok k → CoseKey.ofValue q k.toValue = .ok k := by
  intro shown
  have hshown : es.withoutSecret = shown := es.withoutSecret_eq_filter
  have hform := CoseKey.ofValue_of_hasEntries (p := p) h
  rw [hshown] at hform
  have hpublic := CoseKey.isPublic_of_ofValue h.scalarLabels hform
  refine ⟨fun cert hcert => ?_, fun chain hchain => ⟨?_, fun b w hb hlength hw => ?_⟩,
    fun v k hk => CoseKey.ofValue_toValue hk q⟩
  -- the certificate, the chain's first entry, what is read of the chain
  · obtain ⟨k, payload, hk, hpayload, hcontent⟩ := Certificate.exists_payload hcert
    rw [hform] at hk
    cases hk
    refine ⟨payload, hcontent, (Cbor.encode?_map_plainNumber .plain shown).symm.trans hpayload,
      fun hlength k hk => ?_⟩
    unfold Value.greatestCount at hlength
    exact Certificate.hasPrivate_of_certifiedKey hpublic hpayload (by omega) hcontent hk
  · obtain ⟨key, rootKey, payload, signature, s, hkey, hroot, -, rfl⟩ := exists_wireEntries hchain
    cases (publishedKey_of_hasEntries h signer).symm.trans hkey
    cases hform.symm.trans hroot
    rfl
  · obtain ⟨key, rootKey, payload, signature, s, hkey, hroot, hcontent, rfl⟩ :=
      exists_wireEntries hchain
    cases (publishedKey_of_hasEntries h signer).symm.trans hkey
    cases hform.symm.trans hroot
    obtain ⟨deviceKey, hdeviceKey, hpayload⟩ := Certificate.exists_of_content_eq_ok hcontent
    unfold Value.greatestCount at hlength
    have hread := Cbor.readAs_of_decode? (encode_list_eq_ok_iff.1 hb) (by omega) hw
    obtain ⟨root, certificate, hitems, hrootKey, hcertified⟩ := hasPrivate_of_readAs hpublic hread
    refine ⟨root, certificate, hitems, hrootKey, fun hdevice => ?_⟩
    exact hcertified _ (CoseKey.isPublic_of_ofValue hdevice hdeviceKey)
      (CoseKey.encode_eq_ok_iff.1 hpayload)

/-- A map with the label −4 as a floating-point number, for the root and for the device: a certificate
is signed and a chain is built, and the keys that are decoded of both have no secret part. -/
theorem published_without_secret_float :
    let signer : Value := .privateKey (.ed25519 ⟨Bytes.zeros 32, rfl⟩) 0
    let m : Value := .map .plain [(.int (-2), .bytes [7]),
      (.float ⟨0xc010000000000000⟩, .bytes [9]), (.bytes [5], .int 1)]
    (∃ cert k, (Certificate.signPublicKey {} .standard signer m).result = .ok cert ∧
      cert.payload = .bytes [0xa2, 0x21, 0x41, 0x07, 0x41, 0x05, 0x01] ∧
      Certificate.certifiedKey cert = .ok k ∧ k.hasPrivate = false) ∧
    ∃ chain b w root certificate k cert k', (build {} .standard signer m m).result = .ok chain ∧
      chain.head? = some (.map .plain [(.int (-2), .bytes [7]), (.bytes [5], .int 1)]) ∧
      encode (.list chain) = .ok b ∧ Cbor.decode? b = some w ∧
      w.items? = some [root, certificate] ∧ CoseKey.decode root = .ok k ∧ k.hasPrivate = false ∧
      SignedMessage.decode certificate = .ok cert ∧ Certificate.certifiedKey cert = .ok k' ∧
      k'.hasPrivate = false ∧ CoseKey.ofValue {} k.toValue = .ok k := by
  intro signer m
  let es : Entries := [(.int (-2), .bytes [7]), (.float ⟨0xc010000000000000⟩, .bytes [9]),
    (.bytes [5], .int 1)]
  let fs : Entries := [(.int (-2), .bytes [7]), (.bytes [5], .int 1)]
  let payload : Bytes := [0xa2, 0x21, 0x41, 0x07, 0x41, 0x05, 0x01]
  have hlabels : fs.Distinct := by
    simp [fs, Entries.Distinct, Entries.labels, Value.agrees_int, Value.sameAsInt,
      Value.wholeNumber?, Value.int?]
  have hes : HasEntries m es := by
    refine .map .plain (fun e he => ?_) hlabels
    simp only [List.mem_cons, List.not_mem_nil, or_false] at he
    rcases he with rfl | rfl | rfl
    · exact .int _
    · exact .float _
    · exact .bytes _
  have hform : CoseKey.ofValue {} m = .ok ⟨fs⟩ := CoseKey.ofValue_of_hasEntries hes
  have hportable : CoseKey.Portable 0 ⟨fs⟩ := by
    refine ⟨⟨hlabels, fun e he => ?_⟩, fun e he => ?_, fun e he => ?_⟩ <;>
      simp only [fs, List.mem_cons, List.not_mem_nil, or_false] at he <;>
      rcases he with rfl | rfl
    · exact ⟨rfl, rfl⟩
    · exact ⟨rfl, rfl⟩
    · exact .int _
    · exact .bytes _
    · exact .bytes _
    · exact .int (by decide)
  have hpayload : CoseKey.encode ⟨fs⟩ = .ok payload := rfl
  have hcertified : CoseKey.decode (.bytes payload) = .ok ⟨fs⟩ :=
    hportable.decode_encode (by decide) hpayload (by decide)
  -- the certificate, and how long it is
  have hissued : ∃ signature bt, (Certificate.signPublicKey {} .standard signer m).result
      = .ok ⟨.bytes Suite.eddsa.header, .map .plain [], .bytes payload, .bytes signature⟩ ∧
        Cbor.encode? (.tag Parameters.messageTag (.list [.bytes Suite.eddsa.header, .map .plain [],
          .bytes payload, .bytes signature])) = some bt ∧ bt.length ≤ 104 := by
    have hsk : Suite.eddsa.SignsWith (.ed25519 ⟨Bytes.zeros 32, rfl⟩) := .eddsa _
    obtain ⟨bt, hbt, -⟩ := Certificate.encode_issue hsk 1 payload
    obtain ⟨_, htagged, hencode⟩ := SignedMessage.encode_eq_ok_iff.1 hbt
    cases htagged
    exact ⟨_, bt, Certificate.signPublicKey_eq (by decide) hsk 0
      (Certificate.content_eq_ok hform hpayload), hencode, Certificate.length_encode_issue hsk hbt⟩
  obtain ⟨signature, bt, hsigned, hbt, hlong⟩ := hissued
  -- the chain, which is read back from its encoding
  have hbuild : (build {} .standard signer m m).result
      = .ok (wireEntries ⟨fs⟩ Suite.eddsa.header payload signature false) :=
    build_eq_ok_iff.2 ⟨m, _, _, _, rfl, hform, hsigned, rfl, rfl⟩
  obtain ⟨b, hb, htotal⟩ := exists_encode_list (CoseKey.encode_eq_ok_iff.1 hpayload) hbt
  have hshort : payload.length = 7 := rfl
  have hdecode := decode?_encode hportable rfl hb (by omega)
  have hpublished : CoseKey.decode (.map .plain fs) = .ok ⟨fs⟩ :=
    congrArg Except.ok (CoseKey.new_eq_of_normal hportable.normal)
  have hmessage := SignedMessage.decode_eq_ok_iff.2
    (holdsMessage_tagged .eddsa payload signature true)
  obtain ⟨hcertificate, hchain, hagain⟩ := published_without_secret {} {} .standard signer m hes
  obtain ⟨_, hp, -, hkey⟩ := hcertificate _ hsigned
  cases hp
  obtain ⟨-, hwire⟩ := hchain _ hbuild
  obtain ⟨root, certificate, hitems, hroot, hdevice⟩ :=
    hwire b _ hb (by unfold Value.greatestCount; omega) hdecode
  cases hitems
  refine ⟨⟨_, _, hsigned, rfl, hcertified, hkey (by decide) _ hcertified⟩, ?_⟩
  exact ⟨_, b, _, _, _, _, _, _, hbuild, rfl, hb, hdecode, rfl, hpublished, hroot _ hpublished,
    hmessage, hcertified, hdevice hes.scalarLabels _ _ hmessage hcertified, hagain m _ hform⟩

end Chain

end DeviceTrust
