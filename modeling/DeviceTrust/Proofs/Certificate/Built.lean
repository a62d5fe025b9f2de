import DeviceTrust.Proofs.Certificate.Chain
import DeviceTrust.Proofs.Certificate.Issued
import DeviceTrust.Proofs.Cose.Published

/-!
# Chains that are built validate

A chain consists of the root's published key and a certificate of the device's key
(`Chain.build_eq_ok_iff`). The published key is the root's own, or one that describes it: the same
parameters in any order, perhaps without the algorithm or the identifier, perhaps with a secret part
that is left out (`Describes`). Verification needs no more than that, and so the chain validates as it
is, encoded, and read back (`Chain.validate_built`).
-/

set_option autoImplicit false

namespace DeviceTrust

/-! ## Descriptions of a key -/

/-- **Entries that describe a key** with the given parameters: but for a secret part, each is one of
them, none is repeated, and none is left out but the algorithm and the identifier. -/
structure Describes (es fs : Entries) : Prop where
  labels : ∀ e ∈ fs, IsScalar e.1
  distinct : fs.withoutSecret.Distinct
  sound : ∀ e ∈ fs.withoutSecret, (e.1.plainNumber, e.2.plainNumber) ∈ es
  complete : ∀ e ∈ es, e.1 ≠ .int KeyLabel.alg.number → e.1 ≠ .int KeyLabel.kid.number →
    ∃ x ∈ fs, (x.1.plainNumber, x.2.plainNumber) = e

namespace Describes

variable {es fs : Entries} {pub : PublicKey} {s : Suite}

def published (fs : Entries) : Entries :=
  fs.withoutSecret.map fun e => (e.1.plainNumber, e.2.plainNumber)

/-- **The parameters of a public key describe it**, and are published as they are. -/
theorem refl (hes : pub.parameters? = some es) : Describes es es ∧ published es = es := by
  obtain ⟨hportable, -⟩ := PublicKey.portable_of_parameters? hes 0
  have hplain : ∀ e ∈ es, (e.1.plainNumber, e.2.plainNumber) = e := fun e he =>
    Prod.ext (hportable.normal.plain e he).1 (hportable.normal.plain e he).2
  have hself := Entries.withoutSecret_eq_self (PublicKey.hasSecret_of_parameters? hes)
  refine ⟨⟨fun e he => (hportable.labels e he).isScalar, ?_, fun e he => ?_,
    fun e he _ _ => ⟨e, he, hplain e he⟩⟩, ?_⟩
  · rw [hself]
    exact hportable.normal.distinct
  · rw [hself] at he
    rw [hplain e he]
    exact he
  · rw [published, hself]
    exact (List.map_congr_left hplain).trans (List.map_id es)

theorem publicKey_new (h : Describes es fs) : (CoseKey.new fs).publicKey = ⟨published fs⟩ :=
  CoseKey.publicKey_new h.labels h.distinct

theorem mem_of_mem_published (h : Describes es fs) : ∀ e ∈ published fs, e ∈ es := by
  intro e he
  obtain ⟨x, hx, rfl⟩ := List.mem_map.1 he
  exact h.sound x hx

/-- Any parameter of the key but the algorithm and the identifier is published. -/
theorem mem_published (h : Describes es fs) (hes : pub.parameters? = some es) {e : Value × Value}
    (he : e ∈ es) (halg : e.1 ≠ .int KeyLabel.alg.number) (hkid : e.1 ≠ .int KeyLabel.kid.number) :
    e ∈ published fs := by
  obtain ⟨x, hx, rfl⟩ := h.complete e he halg hkid
  have hsecret := PublicKey.hasSecret_of_parameters? hes
  simp only [Entries.hasSecret, List.any_eq_false] at hsecret
  -- no parameter of a public key is a secret part, and so this one is not left out
  have hpublic : ¬ x.1.isSecretLabel = true := by
    rw [← Value.isSecretLabel_plainNumber]
    exact hsecret _ he
  exact List.mem_map.2 ⟨x, List.mem_filter.2 ⟨hx, by simpa using hpublic⟩, rfl⟩

theorem portable (h : Describes es fs) (hes : pub.parameters? = some es) (depth : Nat) :
    CoseKey.Portable depth ⟨published fs⟩ ∧ CoseKey.asRead ⟨published fs⟩ = ⟨published fs⟩ := by
  obtain ⟨hportable, hback⟩ := PublicKey.portable_of_parameters? hes depth
  have hdistinct : (published fs).Distinct := Entries.distinct_map_plainNumber h.distinct
  refine ⟨hportable.of_subset hdistinct h.mem_of_mem_published, congrArg CoseKey.mk ?_⟩
  have hentries : ∀ e ∈ es, (e.1, Cbor.asRead e.2 false) = e := by
    have hmap : (es.map fun e => (e.1, Cbor.asRead e.2 false)) = es.map id := by
      rw [List.map_id]
      exact congrArg CoseKey.parameters hback
    exact List.map_inj_left.1 hmap
  refine (List.map_congr_left fun e he => ?_).trans (List.map_id _)
  exact hentries e (h.mem_of_mem_published e he)

theorem length_le (h : Describes es fs) (hes : pub.parameters? = some es) :
    (published fs).length ≤ es.length := by
  obtain ⟨hportable, -⟩ := h.portable hes 0
  have hnodup : (published fs).Nodup := by
    have hdistinct : (published fs).labels.Pairwise fun k l => l.agrees k = false :=
      hportable.normal.distinct
    refine List.Nodup.of_map (·.1) (hdistinct.imp_of_mem fun {k l} hk _ hdiffers hsame => ?_)
    obtain ⟨e, he, rfl⟩ := List.mem_map.1 hk
    rw [← hsame, (hportable.labels e he).agrees_self] at hdiffers
    cases hdiffers
  exact (hnodup.subperm h.mem_of_mem_published).length_le

/-- **What is found under a label** that is not left out is what the key has there. -/
theorem get_published (h : Describes es fs) (hes : pub.parameters? = some es) {label : KeyLabel}
    (halg : label ≠ .alg) (hkid : label ≠ .kid) :
    CoseKey.get ⟨published fs⟩ label = CoseKey.get ⟨es⟩ label := by
  obtain ⟨hportable, -⟩ := h.portable hes 0
  obtain ⟨hportable', -⟩ := PublicKey.portable_of_parameters? hes 0
  have hfind : CoseKey.find? ⟨published fs⟩ (.int label.number)
      = CoseKey.find? ⟨es⟩ (.int label.number) := by
    refine Option.ext fun v => ?_
    rw [CoseKey.find?_int_eq_some_iff hportable.labels hportable.normal.distinct,
      CoseKey.find?_int_eq_some_iff hportable'.labels hportable'.normal.distinct]
    refine ⟨h.mem_of_mem_published _, fun hmem => h.mem_published hes hmem ?_ ?_⟩
    · exact fun heq => halg (KeyLabel.number_injective (Value.int.inj heq))
    · exact fun heq => hkid (KeyLabel.number_injective (Value.int.inj heq))
  rw [CoseKey.get, hfind]
  rfl

/-- **A description serves to verify** wherever the key does. -/
theorem allows_and_reads (h : Describes es fs) (hes : pub.parameters? = some es)
    (hallows : CoseKey.Allows ⟨es⟩ s.number) (hreads : s.Reads ⟨es⟩ pub) :
    CoseKey.Allows ⟨published fs⟩ s.number ∧ s.Reads ⟨published fs⟩ pub := by
  refine ⟨?_, (Suite.reads_congr fun label halg hkid => h.get_published hes halg hkid).2 hreads⟩
  obtain ⟨hportable, -⟩ := h.portable hes 0
  obtain ⟨hportable', -⟩ := PublicKey.portable_of_parameters? hes 0
  cases hfind : CoseKey.find? ⟨published fs⟩ (.int KeyLabel.alg.number) with
  | none => exact .inl hfind
  | some v =>
      -- an algorithm that is named is the one of the key
      have hmem := h.mem_of_mem_published _
        ((CoseKey.find?_int_eq_some_iff hportable.labels hportable.normal.distinct).1 hfind)
      have hfind' := (CoseKey.find?_int_eq_some_iff hportable'.labels
        hportable'.normal.distinct).2 hmem
      rcases hallows with hnone | ⟨v', hv', hnumber⟩
      · rw [hfind'] at hnone
        cases hnone
      · rw [hfind'] at hv'
        cases hv'
        exact .inr ⟨v, hfind, hnumber⟩

end Describes

/-- **A key that is published for a root**: none for its own, its public key, or a map or structured
key that describes it. -/
inductive Publishes (pub : PublicKey) : Value → Prop
  | own : Publishes pub .null
  | publicKey : Publishes pub (.publicKey pub)
  | map (flavour : MapFlavour) {es fs : Entries} (hes : pub.parameters? = some es)
      (h : Describes es fs) : Publishes pub (.map flavour fs)
  | key {es fs : Entries} (hes : pub.parameters? = some es) (h : Describes es fs) :
      Publishes pub (CoseKey.new fs).toValue

/-- **What can be encoded as a key**: a public key that has a structured form, or a map or structured
key of what has an encoding. -/
inductive Encodable : Value → Prop
  | publicKey {k : PublicKey} {es : Entries} (h : k.parameters? = some es) :
      Encodable (.publicKey k)
  | map (flavour : MapFlavour) {es : Entries} (hl : ∀ e ∈ es, ∃ b, Cbor.encode? e.1 = some b)
      (hc : ∀ e ∈ es, ∃ b, Cbor.encode? e.2 = some b) : Encodable (.map flavour es)
  | key {es : Entries} (hl : ∀ e ∈ es, ∃ b, Cbor.encode? e.1 = some b)
      (hc : ∀ e ∈ es, ∃ b, Cbor.encode? e.2 = some b) : Encodable (CoseKey.new es).toValue

namespace Chain

variable {p q : Platform} {pr : Provider} {root device published : Value} {s : Suite}
  {sk : PrivateKey} {pub : PublicKey}

/-! ## Building -/

/-- The key to publish: the root's own unless another is given. -/
def publishedKey (root published : Value) : Except Error Value :=
  if published matches .null then rootPublicKey root else pure published

theorem build_eq_ok_iff {chain : List Value} :
    (build p pr root device published).result = .ok chain ↔
      ∃ key rootKey certificate tagged, publishedKey root published = .ok key ∧
        CoseKey.ofValue p key = .ok rootKey ∧
        (Certificate.signPublicKey p pr root device).result = .ok certificate ∧
        certificate.toTagged = .ok tagged ∧ chain = [.map .plain rootKey.parameters, tagged] := by
  have hresult : (build p pr root device published).result = (do
      let key ← publishedKey root published
      let rootKey ← CoseKey.ofValue p key
      let certificate ← (Certificate.signPublicKey p pr root device).result
      let tagged ← certificate.toTagged
      return [.map .plain rootKey.parameters, tagged]) := by
    unfold build publishedKey
    cases published with
    | null =>
        simp only [if_true, Traced.result_bind, Traced.result_lift]
        rfl
    | _ =>
        simp only [Bool.false_eq_true, if_false, Traced.result_bind, Traced.result_lift]
        rfl
  rw [hresult]
  simp only [bind_eq_ok]
  constructor
  · rintro ⟨key, hkey, rootKey, hroot, certificate, hcertificate, tagged, htagged, hchain⟩
    cases hchain
    exact ⟨key, rootKey, certificate, tagged, hkey, hroot, hcertificate, htagged, rfl⟩
  · rintro ⟨key, rootKey, certificate, tagged, hkey, hroot, hcertificate, htagged, rfl⟩
    exact ⟨key, hkey, rootKey, hroot, certificate, hcertificate, tagged, htagged, rfl⟩

/-- The entries of a chain: the published key and the tagged array of a certificate. What is read of a
tag has arrays and maps in it that cannot change (`frozen`). -/
def wireEntries (k : CoseKey) (header payload signature : Bytes) (frozen : Bool) : List Value :=
  [.map .plain k.parameters,
    .tag Parameters.messageTag (Cbor.arrayOf frozen [.bytes header, Cbor.mapOf frozen [],
      .bytes payload, .bytes signature])]

/-- **Whatever chain is built**, it consists of the key to publish and a certificate of the content of
the device's key. -/
theorem exists_wireEntries {chain : List Value}
    (h : (build p pr root device published).result = .ok chain) :
    ∃ key rootKey payload signature, ∃ s : Suite, publishedKey root published = .ok key ∧
      CoseKey.ofValue p key = .ok rootKey ∧ Certificate.content p device = .ok payload ∧
      chain = wireEntries rootKey s.header payload signature false := by
  obtain ⟨key, rootKey, certificate, tagged, hkey, hroot, hcertificate, htagged, rfl⟩ :=
    build_eq_ok_iff.1 h
  obtain ⟨payload, signature, s, hpayload, rfl⟩ := Certificate.signPublicKey_eq_ok hcertificate
  cases htagged
  exact ⟨key, rootKey, payload, signature, s, hkey, hroot, hpayload, rfl⟩

theorem plain_tagged (header payload signature : Bytes) :
    Cbor.Plain 2 (.tag Parameters.messageTag
      (.list [.bytes header, .map .plain [], .bytes payload, .bytes signature])) := by
  refine .tag (by decide) (by decide) (.list fun x hx => ?_)
  simp only [List.mem_cons, List.not_mem_nil, or_false] at hx
  rcases hx with rfl | rfl | rfl | rfl
  · exact .bytes _
  · exact .noEntries .plain
  · exact .bytes _
  · exact .bytes _

/-- The tagged array holds the message that it is made of, whether it can change or not. -/
theorem holdsMessage_tagged (s : Suite) (payload signature : Bytes) (frozen : Bool) :
    HoldsMessage (.tag Parameters.messageTag (Cbor.arrayOf frozen [.bytes s.header,
        Cbor.mapOf frozen [], .bytes payload, .bytes signature]))
      ⟨.bytes s.header, .map .plain [], .bytes payload, .bytes signature⟩ := by
  have hheader : Header.IsReadable s.header := .inr ⟨_, s.encodesMap_header⟩
  cases frozen with
  | true | false => exact .item (.tagged (.intro rfl rfl rfl rfl rfl hheader))

/-- **What is published for a root** is a description of its key. -/
theorem exists_published (hp : p.missing = []) (hpub : sk.publicKey? = some pub)
    (hsk : s.SignsWith sk) (h : Publishes pub published) (mark : Mark) :
    ∃ es fs key, pub.parameters? = some es ∧ Describes es fs ∧
      publishedKey (.privateKey sk mark) published = .ok key ∧
      CoseKey.ofValue p key = .ok ⟨Describes.published fs⟩ := by
  obtain ⟨es, hes⟩ := Certificate.exists_parameters? hsk hpub
  obtain ⟨hself, hpublished⟩ := Describes.refl hes
  have hown : CoseKey.ofValue p (.publicKey pub) = .ok ⟨Describes.published es⟩ := by
    rw [hpublished]
    exact CoseKey.ofPublicKey_of_parameters? hp hes
  cases h with
  | own =>
      have hroot : rootPublicKey (.privateKey sk mark) = .ok (.publicKey pub) := by
        rw [rootPublicKey, hpub]
      exact ⟨es, es, .publicKey pub, hes, hself, hroot, hown⟩
  | publicKey => exact ⟨es, es, .publicKey pub, hes, hself, rfl, hown⟩
  | map flavour hes h | key hes h =>
      refine ⟨_, _, _, hes, h, rfl, ?_⟩
      rw [← h.publicKey_new]
      rfl

theorem exists_content (hp : p.missing = []) (h : Encodable device) :
    ∃ payload, Certificate.content p device = .ok payload := by
  -- plain numbers for labels and no secret entry: neither keeps the rest from being encoded
  have hentries : ∀ {es : Entries}, (∀ e ∈ es, ∃ b, Cbor.encode? e.1 = some b) →
      (∀ e ∈ es, ∃ b, Cbor.encode? e.2 = some b) → ∃ b, (CoseKey.new es).publicKey.encode = .ok b := by
    intro es hl hc
    have hnew : ∀ e ∈ (CoseKey.new es).publicKey.parameters,
        (∃ b, Cbor.encode? e.1 = some b) ∧ ∃ b, Cbor.encode? e.2 = some b := by
      intro e he
      refine Entries.ofList_forall (P := fun v => ∃ b, Cbor.encode? v = some b)
        (Q := fun v => ∃ b, Cbor.encode? v = some b) (fun x hx => ?_) e (List.mem_filter.1 he).1
      obtain ⟨y, hy, rfl⟩ := List.mem_map.1 hx
      rw [Cbor.encode?_plainNumber, Cbor.encode?_plainNumber]
      exact ⟨hl y hy, hc y hy⟩
    obtain ⟨bs, hbs⟩ := Cbor.exists_encodeEntries? (fun e he => (hnew e he).1)
      fun e he => (hnew e he).2
    exact ⟨_, CoseKey.encode_eq_ok_iff.2 (by rw [Cbor.encode?, hbs]; rfl)⟩
  cases h with
  | publicKey h =>
      obtain ⟨b, hb⟩ := (PublicKey.portable_of_parameters? h 0).1.exists_encode
      exact ⟨b, Certificate.content_eq_ok (CoseKey.ofPublicKey_of_parameters? hp h) hb⟩
  | map flavour hl hc | key hl hc =>
      obtain ⟨b, hb⟩ := hentries hl hc
      exact ⟨b, Certificate.content_eq_ok rfl hb⟩

/-! ## Validating -/

/-- **A chain validates** in any form if its first entry holds a key that may serve, and its second a
message that this key signed. -/
theorem validate_eq_true (hq : q.missing = []) (hs : s ∈ pr.suites) {k : CoseKey} (hk : k.Normal)
    (hallows : k.Allows s.number) (hreads : s.Reads k pub) {payload signature : Bytes}
    (haccepts : pub.accepts (SignedMessage.sigStructure s.header [] payload) signature = true)
    {chain tagged u : Value}
    (hentries : HoldsEntries chain [.map .plain k.parameters, tagged])
    (htagged : HoldsMessage tagged ⟨.bytes s.header, u, .bytes payload, .bytes signature⟩) :
    (validate q pr chain).result = .ok true := by
  have hkey : HoldsKey (.map .plain k.parameters) k := by
    have hnew : CoseKey.new k.parameters = k := CoseKey.new_eq_of_normal hk
    have hmap : HoldsKey (.map .plain k.parameters) (.new k.parameters) := .map .plain _
    rwa [hnew] at hmap
  refine validate_eq_ok_iff.2 ⟨_, tagged, hentries, linkHolds_eq_ok_iff.2 ⟨k, _, hkey, htagged, ?_⟩⟩
  exact (Provider.verify_eq_ok_iff hq hk).2 ⟨s, hs, s.names_header, hallows, pub, hreads, haccepts⟩

/-- **A chain of a portable key is read back** from its encoding. -/
theorem decode?_encode {k : CoseKey} (hk : k.Portable 0) (hback : k.asRead = k)
    {header payload signature b : Bytes}
    (hb : encode (.list (wireEntries k header payload signature false)) = .ok b)
    (hlength : b.length < 2 ^ 64) :
    Cbor.decode? b = some (.list (wireEntries k header payload signature true)) := by
  have hplain : Cbor.Plain 3 (.list (wireEntries k header payload signature false)) := by
    refine .list fun x hx => ?_
    rcases List.mem_cons.1 hx with rfl | hx
    · exact hk.plain (by decide) (by decide)
    · rw [List.mem_singleton.1 hx]
      exact plain_tagged header payload signature
  have hkey := hk.asRead_map
  rw [hback] at hkey
  rw [Cbor.decode?_encode (hplain.mono (by decide)) (encode_list_eq_ok_iff.1 hb) hlength]
  show some (Value.list [Cbor.asRead (.map .plain k.parameters) false, _]) = _
  rw [hkey]
  rfl

/-- **A chain has an encoding** if its key and its certificate have, and little more of it. -/
theorem exists_encode_list {key tagged : Value} {bk bt : Bytes} (hk : Cbor.encode? key = some bk)
    (ht : Cbor.encode? tagged = some bt) :
    ∃ b, encode (.list [key, tagged]) = .ok b ∧ b.length = bk.length + bt.length + 1 := by
  refine ⟨Cbor.head 4 2 ++ (bk ++ (bt ++ [])), encode_list_eq_ok_iff.2 ?_, ?_⟩
  · simp [Cbor.encode?, Cbor.encodeItems?, hk, ht]
  · have hhead : (Cbor.head 4 2).length = 1 := rfl
    simp only [List.length_append, List.length_nil, hhead]
    omega

/-- **Every chain that is built validates.** Build a chain for any device key that can be encoded, with
a signing key of a suite that the provider has, publishing the root's own key or one that describes
it. The chain is built, it has an encoding, and this is read back; and validation by any provider that
has the suite says yes to the chain as it is, to its encoding, and to what is read back.

The laws of the signature schemes are hypotheses on the root's key alone: its public key is one
(`hvalid`) and accepts the one signature that is verified (`hlaw`). The encoding of the device's key
has to have a length that can be counted (`hlength`). -/
theorem validate_built (p q : Platform) (hp : p.missing = []) (hq : q.missing = [])
    {pr pr' : Provider} {s : Suite} (hs : s ∈ pr.suites) (hs' : s ∈ pr'.suites) {sk : PrivateKey}
    (hsk : s.SignsWith sk) (mark : Mark) {pub : PublicKey} (hpub : sk.publicKey? = some pub)
    (hvalid : pub.IsValid) {device published : Value} (hdevice : Encodable device)
    (hpublished : Publishes pub published)
    (hlength : ∀ b, Certificate.content p device = .ok b → (b.length : Int) ≤ Value.greatestCount)
    (hlaw : ∀ b, Certificate.content p device = .ok b →
      pub.accepts (SignedMessage.sigStructure s.header [] b)
        (sk.signature p.nonce (SignedMessage.sigStructure s.header [] b)) = true) :
    ∃ chain b w, (build p pr (.privateKey sk mark) device published).result = .ok chain ∧
      encode (.list chain) = .ok b ∧ Cbor.decode? b = some w ∧
      (∀ v, v.items? = some chain → (validate q pr' v).result = .ok true) ∧
      (∀ v, v.byteString? = some b → (validate q pr' v).result = .ok true) ∧
      (validate q pr' w).result = .ok true := by
  -- the two entries: the published key, which serves to verify, and the certificate
  obtain ⟨es, fs, key, hes, hdescribes, hkey, hroot⟩ :=
    exists_published hp hpub hsk hpublished mark
  obtain ⟨hportable, hback⟩ := hdescribes.portable hes 0
  obtain ⟨hallows, hreads⟩ := Certificate.reads_of_parameters? hsk hpub hvalid hes
  obtain ⟨hallows', hreads'⟩ := hdescribes.allows_and_reads hes hallows hreads
  obtain ⟨payload, hpayload⟩ := exists_content hp hdevice
  have hcertificate := Certificate.signPublicKey_eq hs hsk mark hpayload
  have hbuild : (build p pr (.privateKey sk mark) device published).result
      = .ok (wireEntries ⟨Describes.published fs⟩ s.header payload
          (sk.signature p.nonce (SignedMessage.sigStructure s.header [] payload)) false) :=
    build_eq_ok_iff.2 ⟨key, _, _, _, hkey, hroot, hcertificate, rfl, rfl⟩
  -- both have encodings that are short, but for the content
  obtain ⟨bk, hbk⟩ := hportable.exists_encode
  obtain ⟨bt, hbt, -⟩ := Certificate.encode_issue hsk p.nonce payload
  obtain ⟨_, htagged, hencodeTagged⟩ := SignedMessage.encode_eq_ok_iff.1 hbt
  cases htagged
  obtain ⟨b, hb, htotal⟩ := exists_encode_list (CoseKey.encode_eq_ok_iff.1 hbk) hencodeTagged
  have hshort := PublicKey.length_encode_of_subset hes hdescribes.mem_of_mem_published
    (hdescribes.length_le hes) hbk
  have hlong := Certificate.length_encode_issue hsk hbt
  have hcount := hlength payload hpayload
  unfold Value.greatestCount at hcount
  have hdecode := decode?_encode hportable hback hb (by omega)
  -- in memory and on the wire, the message holds what was signed
  have hvalidates : ∀ frozen v, HoldsEntries v (wireEntries ⟨Describes.published fs⟩ s.header payload
      (sk.signature p.nonce (SignedMessage.sigStructure s.header [] payload)) frozen) →
        (validate q pr' v).result = .ok true := by
    intro frozen v hv
    exact validate_eq_true hq hs' hportable.normal hallows' hreads' (hlaw payload hpayload) hv
      (holdsMessage_tagged s _ _ frozen)
  refine ⟨_, b, _, hbuild, hb, hdecode, fun v hv => ?_, fun v hv => ?_, ?_⟩
  · exact hvalidates false v (.array hv)
  · exact hvalidates true v (.encoded hv hdecode rfl)
  · exact hvalidates true _ (.array rfl)

/-- An Ed25519 root that publishes its key in another order, without its algorithm and its identifier
and with a secret part under a named label; the device's key is a map. The chain validates as it is,
encoded, and read back. -/
theorem validate_built_described :
    let sk : PrivateKey := .ed25519 ⟨Bytes.zeros 32, rfl⟩
    let x : Bytes := (RawKey.ed25519Public ⟨Bytes.zeros 32, rfl⟩).bytes
    let published : Value := .map .plain [(.registered (.label .d), .bytes [9]),
      (.int (-2), .bytes x), (.registered (.label .kty), .int 1), (.int (-1), .int 6)]
    let device : Value := .map .plain [(.int (-2), .bytes [7])]
    ∃ chain b w, (build {} .standard (.privateKey sk 0) device published).result = .ok chain ∧
      encode (.list chain) = .ok b ∧ Cbor.decode? b = some w ∧
      (validate {} .standard (.list chain)).result = .ok true ∧
      (validate {} .standard (.bytes b)).result = .ok true ∧
      (validate {} .standard w).result = .ok true := by
  intro sk x published device
  have hcontent : Certificate.content {} device = .ok [0xa1, 0x21, 0x41, 0x07] :=
    Certificate.content_eq_ok (k := ⟨[(.int (-2), .bytes [7])]⟩) rfl rfl
  have hdevice : Encodable device := by
    refine .map .plain (fun e he => ?_) (fun e he => ?_)
    · rw [List.mem_singleton.1 he]
      exact ⟨_, rfl⟩
    · rw [List.mem_singleton.1 he]
      exact ⟨_, rfl⟩
  have hpublished : Publishes (.ed25519 (RawKey.ed25519Public ⟨Bytes.zeros 32, rfl⟩)) published := by
    -- all but the secret part, which is left out
    have hpublic : Entries.withoutSecret [(.registered (.label .d), .bytes [9]),
        (.int (-2), .bytes x), (.registered (.label .kty), .int 1), (.int (-1), .int 6)]
          = [(.int (-2), .bytes x), (.registered (.label .kty), .int 1), (.int (-1), .int 6)] := rfl
    refine .map .plain rfl ⟨?_, ?_, ?_, ?_⟩
    · intro e he
      simp only [List.mem_cons, List.not_mem_nil, or_false] at he
      rcases he with rfl | rfl | rfl | rfl
      · exact .registered _
      · exact .int _
      · exact .registered _
      · exact .int _
    · rw [hpublic]
      simp [Entries.Distinct, Entries.labels, Value.agrees_int, Value.int_agrees,
        Value.sameAsInt, Value.wholeNumber?, Value.int?, Registered.number, KeyLabel.number]
    · intro e he
      rw [hpublic] at he
      simp only [List.mem_cons, List.not_mem_nil, or_false] at he
      rcases he with rfl | rfl | rfl
      · simp [keyParameters, Value.plainNumber, KeyLabel.number, x]
      · simp [keyParameters, Value.plainNumber, KeyLabel.number, Registered.number, KeyType.number]
      · simp [keyParameters, Value.plainNumber, KeyLabel.number, Curve.number]
    · intro e he halg hkid
      simp only [keyParameters, List.cons_append, List.nil_append, List.mem_cons,
        List.not_mem_nil, or_false] at he
      rcases he with rfl | rfl | rfl | rfl | rfl
      · exact ⟨_, .tail _ (.tail _ (.head _)), rfl⟩
      · exact absurd rfl hkid
      · exact absurd rfl halg
      · exact ⟨_, .tail _ (.tail _ (.tail _ (.head _))), rfl⟩
      · exact ⟨_, .tail _ (.head _), rfl⟩
  have hlaw : PublicKey.accepts (.ed25519 (RawKey.ed25519Public ⟨Bytes.zeros 32, rfl⟩))
      (SignedMessage.sigStructure Suite.eddsa.header [] [0xa1, 0x21, 0x41, 0x07])
      (sk.signature 1 (SignedMessage.sigStructure Suite.eddsa.header []
        [0xa1, 0x21, 0x41, 0x07])) = true := by
    set_option maxRecDepth 100000 in
    decide +kernel
  obtain ⟨chain, b, w, hbuild, hb, hw, hlist, hbytes, hvalid⟩ := validate_built {} {} rfl rfl
    (show Suite.eddsa ∈ Provider.standard.suites by decide)
    (show Suite.eddsa ∈ Provider.standard.suites by decide) (.eddsa _) 0 rfl trivial hdevice
    hpublished (fun b hb => by cases hcontent.symm.trans hb; decide)
    (fun b hb => by cases hcontent.symm.trans hb; exact hlaw)
  exact ⟨chain, b, w, hbuild, hb, hw, hlist (.list chain) rfl, hbytes (.bytes b) rfl, hvalid⟩

end Chain

end DeviceTrust
