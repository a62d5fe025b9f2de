import DeviceTrust.Proofs.Key.Agreement
import DeviceTrust.Proofs.Cbor.Items

/-!
# The context holds the parties apart

The context of a derivation is made of two parties, one encoded after the other, and each of them of
an identity and a key. Every encoding begins with its own length, so a context tells which identity
and which key stand in which place (`PartyEntry.contextBytes_inj`). What two parties derive from one
exchange thus depends on the place that each of them has: a side that sends and a side that receives
with the same keys at hand use different contexts, unless the two keys are one
(`context_separates`).

The only condition is that the head of a string holds its length, as it does for every string that
there is memory for.
-/

set_option autoImplicit false

namespace DeviceTrust.Agreement

/-! ## Parties -/

/-- **What the context tells of a party**: who it is, and its public key. -/
structure PartyEntry where
  identity : String
  key : Bytes
  deriving DecidableEq

namespace PartyEntry

variable {u v u' v' : PartyEntry} {rest rest' : Bytes}

/-- The lengths of both strings fit in a head. -/
structure Fits (u : PartyEntry) : Prop where
  identity : (Bytes.ofText u.identity).length < 2 ^ 64
  key : u.key.length < 2 ^ 64

/-- The bytes of a party: an array of the identity, an empty nonce, and the key. -/
def encoded (u : PartyEntry) : Bytes :=
  0x83 :: (Cbor.encodeText u.identity ++ 0x40 :: Cbor.encodeBytes u.key)

/-- The bytes of a context: an array of the cipher's number, the two parties, and the array of the
key length and an empty string. -/
def contextBytes (u v : PartyEntry) : Bytes :=
  0x84 :: 0x03 :: (u.encoded ++ v.encoded ++ [0x82, 0x19, 0x01, 0x00, 0x40])

/-- **Two encoded parties at the front of the same bytes are one party.** -/
theorem encoded_append_inj (hu : u.Fits) (hu' : u'.Fits)
    (h : u.encoded ++ rest = u'.encoded ++ rest') : u = u' ∧ rest = rest' := by
  simp only [encoded, List.cons_append, List.append_assoc, List.cons.injEq, true_and] at h
  obtain ⟨hidentity, hlater⟩ := Cbor.encodeText_append_inj hu.identity hu'.identity h
  have hkeys := (List.cons.inj hlater).2
  obtain ⟨hkey, hrest⟩ := Cbor.encodeBytes_append_inj hu.key hu'.key hkeys
  obtain ⟨identity, key⟩ := u
  obtain ⟨identity', key'⟩ := u'
  cases hidentity
  cases hkey
  exact ⟨rfl, hrest⟩

/-- **The context tells both parties**, and which of them stands in which place. -/
theorem contextBytes_inj (hu : u.Fits) (hv : v.Fits) (hu' : u'.Fits) (hv' : v'.Fits) :
    contextBytes u v = contextBytes u' v' ↔ u = u' ∧ v = v' := by
  constructor
  · intro h
    have hparties := (List.cons.inj (List.cons.inj h).2).2
    simp only [List.append_assoc] at hparties
    obtain ⟨hfirst, hlater⟩ := encoded_append_inj hu hu' hparties
    obtain ⟨hsecond, -⟩ := encoded_append_inj hv hv' hlater
    exact ⟨hfirst, hsecond⟩
  · rintro ⟨rfl, rfl⟩
    rfl

end PartyEntry

/-! ## Contexts -/

def contextOfParties (p : Platform) (i j : String) (k l : Value) : Except Error Bytes := do
  let u ← partyInfo p (.text i) k
  let v ← partyInfo p (.text j) l
  context u v

theorem partyInfo_eq (p : Platform) {key : Value} {k : Bytes} (h : key.byteString? = some k)
    (i : String) : partyInfo p (.text i) key = .ok (.list [.text i, .bytes [], .bytes k]) := by
  unfold partyInfo
  rw [Value.toBytes_of_byteString? h]
  rfl

/-- The encoding of the two parties, with the numbers and lengths at the front of each array. -/
theorem context_lists (i j : String) (k l : Bytes) :
    context (.list [.text i, .bytes [], .bytes k]) (.list [.text j, .bytes [], .bytes l])
      = .ok (PartyEntry.contextBytes ⟨i, k⟩ ⟨j, l⟩) := by
  have hthree : Cbor.head 4 3 = [0x83] := rfl
  have hfour : Cbor.head 4 4 = [0x84] := rfl
  have htwo : Cbor.head 4 2 = [0x82] := rfl
  have hempty : Cbor.encodeBytes [] = [0x40] := rfl
  have hcipher : Cbor.encodeInt Algorithm.a256gcm.number = [0x03] := rfl
  have hbits : Cbor.encodeInt (Parameters.contextKeyBits : Nat) = [0x19, 0x01, 0x00] := rfl
  simp [context, contextValue, Cbor.encode?, Cbor.encodeItems?, PartyEntry.contextBytes,
    PartyEntry.encoded, hthree, hfour, htwo, hempty, hcipher, hbits]

/-- **Every two parties have a context**, and its bytes are these. -/
theorem contextOfParties_eq (p : Platform) {K L : Value} {k l : Bytes}
    (hK : K.byteString? = some k) (hL : L.byteString? = some l) (i j : String) :
    contextOfParties p i j K L = .ok (PartyEntry.contextBytes ⟨i, k⟩ ⟨j, l⟩) := by
  unfold contextOfParties
  rw [partyInfo_eq p hK, partyInfo_eq p hL]
  exact context_lists i j k l

/-! ## Directions -/

variable {p p' : Platform} {d d' : Direction} {c c₁ c₂ c₁' c₂' : RawCurve} {a b a' b' : RawKey}

def partyOf (party : Party) (key : RawKey) : PartyEntry := ⟨party.identity, key.bytes⟩

theorem fits_partyOf (party : Party) (key : RawKey) : (partyOf party key).Fits := by
  have hkey : key.bytes.length < 2 ^ 64 := by
    rw [key.length_eq]
    decide
  have hidentity : (Bytes.ofText party.identity).length < 2 ^ 64 := by
    cases party with
    | device | server => decide +kernel
  exact ⟨hidentity, hkey⟩

theorem partyOf_inj {party : Party} (h : partyOf party a = partyOf party b) : a = b := by
  have hbytes : a.bytes = b.bytes := congrArg PartyEntry.key h
  obtain ⟨_, _⟩ := a
  obtain ⟨_, _⟩ := b
  cases hbytes
  rfl

/-- **The context of a direction** has the device first, whichever side derives. -/
theorem context_publicKey (p : Platform) (d : Direction) (c₁ c₂ : RawCurve) (a b : RawKey) :
    d.context p (c₁.publicKey a) (c₂.publicKey b)
      = .ok (PartyEntry.contextBytes (partyOf .device (d.places a b).1)
          (partyOf .server (d.places a b).2)) := by
  have hplaces : d.context p (c₁.publicKey a) (c₂.publicKey b)
      = contextOfParties p Party.device.identity Party.server.identity
          (.bytes (d.places a b).1.bytes) (.bytes (d.places a b).2.bytes) := by
    cases d <;> cases c₁ <;> cases c₂ <;> rfl
  rw [hplaces]
  exact contextOfParties_eq p rfl rfl _ _

/-- **Two contexts are the same** exactly if the device has the same key in both, and the server
too. -/
theorem contextBytes_partyOf_inj {device server device' server' : RawKey} :
    PartyEntry.contextBytes (partyOf .device device) (partyOf .server server)
        = PartyEntry.contextBytes (partyOf .device device') (partyOf .server server') ↔
      device = device' ∧ server = server' := by
  rw [PartyEntry.contextBytes_inj (fits_partyOf _ _) (fits_partyOf _ _) (fits_partyOf _ _)
    (fits_partyOf _ _)]
  constructor
  · rintro ⟨hdevice, hserver⟩
    exact ⟨partyOf_inj hdevice, partyOf_inj hserver⟩
  · rintro ⟨rfl, rfl⟩
    exact ⟨rfl, rfl⟩

/-- Only a key with raw bytes has a place in a context. -/
theorem Direction.exists_rawKeys_of_context {own peer : PublicKey} {info : Bytes}
    (h : d.context p own peer = .ok info) :
    (∃ (c : RawCurve) (a : RawKey), own = c.publicKey a) ∧
      ∃ (c : RawCurve) (b : RawKey), peer = c.publicKey b := by
  have hraw : (∃ x, own.toRaw = .ok x) ∧ ∃ y, peer.toRaw = .ok y := by
    cases d with
    | send =>
        obtain ⟨x, hown, h⟩ := bind_eq_ok.1 h
        obtain ⟨y, hpeer, -⟩ := bind_eq_ok.1 h
        exact ⟨⟨x, hown⟩, y, hpeer⟩
    | receive =>
        obtain ⟨y, hpeer, h⟩ := bind_eq_ok.1 h
        obtain ⟨x, hown, -⟩ := bind_eq_ok.1 h
        exact ⟨⟨x, hown⟩, y, hpeer⟩
  have hkey : ∀ {k : PublicKey}, (∃ x, k.toRaw = .ok x) →
      ∃ (c : RawCurve) (a : RawKey), k = c.publicKey a := by
    rintro k ⟨x, hx⟩
    cases k with
    | x25519 a => exact ⟨.x25519, a, rfl⟩
    | ed25519 a => exact ⟨.ed25519, a, rfl⟩
    | p256 _ _ | p384 _ _ => cases hx
  exact ⟨hkey hraw.1, hkey hraw.2⟩

/-! ## Derived keys -/

/-- **A key derived with a context**: the bytes that the hash makes of a secret and of the context
that the direction has for the keys at hand, of which one is the device's and the other the
server's. -/
inductive DerivedWith (p : Platform) (d : Direction) (info : Bytes) (device server : RawKey) :
    Value → Value → Bytes → Prop
  | intro {s : PrivateKey} {c : RawCurve} {own peer : RawKey} {secret : Bytes} (mark : Mark)
      (n : Nat)
      (hplaces : d.places own peer = (device, server))
      (hinfo : d.context p (c.publicKey own) (.x25519 peer) = .ok info)
      (hsecret : sharedSecret (.privateKey s 0) (.publicKey (.x25519 peer)) = .ok secret) :
      DerivedWith p d info device server (.keyPair ⟨s, c.publicKey own⟩ mark)
        (.publicKey (.x25519 peer)) (Hash.Hkdf.derive secret none info n)

theorem DerivedWith.info_eq {info key : Bytes} {device server : RawKey} {own peer : Value}
    (h : DerivedWith p d info device server own peer key) :
    info = PartyEntry.contextBytes (partyOf .device device) (partyOf .server server) := by
  cases h with
  | @intro s c u v mark secret n hplaces hinfo hsecret =>
      have hbytes := context_publicKey p d c .x25519 u v
      rw [hplaces] at hbytes
      exact Except.ok.inj (hinfo.symm.trans hbytes)

theorem exists_x25519_of_sharedSecret {s : PrivateKey} {k : PublicKey} {secret : Bytes}
    (h : sharedSecret (.privateKey s 0) (.publicKey k) = .ok secret) : ∃ v, k = .x25519 v := by
  obtain ⟨_, _, v, -, hk, -⟩ := sharedSecret_eq_ok_iff.1 h
  exact ⟨v, Value.publicKey.inj hk⟩

/-- **Every directional key is derived with the context of its direction**, whatever was handed
over. -/
theorem exists_derivedWith {own peer length : Value} {key : Bytes}
    (h : (directionalKeyOf p d own peer length).result = .ok key) :
    ∃ info device server, DerivedWith p d info device server own peer key := by
  unfold directionalKeyOf at h
  simp only [Traced.result_bind, Traced.result_lift] at h
  obtain ⟨_, hkeys, h⟩ := bind_eq_ok.1 h
  obtain ⟨⟨s, pub⟩, mark, k, rfl, rfl⟩ := Direction.exists_keys_of_requireKeys hkeys
  cases hlength : requestedLength? length with
  | none =>
      -- without a length there is a fault in its place
      rw [hlength] at h
      simp only [traced_withSecret_held, Traced.result_lift] at h
      obtain ⟨_, -, h⟩ := bind_eq_ok.1 h
      exact absurd h (deriveOf_ne_ok p hlength _ _ _ key)
  | some l =>
      rw [hlength] at h
      change (directionalKey p d ⟨s, pub⟩ k l).result = .ok key at h
      rw [directionalKey_eq] at h
      simp only [Traced.result_bind, Traced.result_lift] at h
      obtain ⟨info, hinfo, h⟩ := bind_eq_ok.1 h
      obtain ⟨secret, hsecret, h⟩ := bind_eq_ok.1 h
      obtain ⟨key', hkey, h⟩ := bind_eq_ok.1 h
      obtain ⟨_, -, h⟩ := bind_eq_ok.1 h
      cases h
      obtain ⟨-, -, rfl⟩ := Platform.derive_eq_ok_iff.1 hkey
      obtain ⟨v, rfl⟩ := exists_x25519_of_sharedSecret hsecret
      obtain ⟨⟨c, a, rfl⟩, -⟩ := Direction.exists_rawKeys_of_context hinfo
      exact ⟨info, _, _, .intro mark _ rfl hinfo hsecret⟩

/-! ## Parties and directions -/

/-- **The context separates parties and directions.** Take parties whose strings have lengths that
fit in a head, as they do for every string in memory (`Value.lt_of_le_greatestCount`). Any two have
a context, whichever sort of byte string holds their keys, and two contexts are the same only if the
first parties are, and the second too. A direction has a context for any two keys with raw bytes,
and the one for sending is the one for receiving only if the two keys are the same. Whatever was
handed over, a derived key was made with the context of its direction, and two derived keys were
made with the same context exactly if the device had the same key in both derivations, and the
server too. -/
theorem context_separates {u v u' v' : PartyEntry} (hu : u.Fits) (hv : v.Fits) (hu' : u'.Fits)
    (hv' : v'.Fits) :
    (∀ (p p' : Platform) (K L K' L' : Value), K.byteString? = some u.key →
      L.byteString? = some v.key → K'.byteString? = some u'.key → L'.byteString? = some v'.key →
        (∃ info, contextOfParties p u.identity v.identity K L = .ok info) ∧
        (contextOfParties p u.identity v.identity K L
            = contextOfParties p' u'.identity v'.identity K' L' ↔ u = u' ∧ v = v')) ∧
    (∀ (p : Platform) (c₁ c₂ : RawCurve) (own peer : RawKey), ∃ sent received,
      Direction.send.context p (c₁.publicKey own) (c₂.publicKey peer) = .ok sent ∧
      Direction.receive.context p (c₁.publicKey own) (c₂.publicKey peer) = .ok received ∧
      (sent = received ↔ own = peer)) ∧
    (∀ (p : Platform) (d : Direction) (own peer length : Value) (key : Bytes),
      (directionalKeyOf p d own peer length).result = .ok key →
        ∃ info device server, DerivedWith p d info device server own peer key) ∧
    ∀ (p p' : Platform) (d d' : Direction) (info info' key key' : Bytes)
      (device server device' server' : RawKey) (own peer own' peer' : Value),
      DerivedWith p d info device server own peer key →
      DerivedWith p' d' info' device' server' own' peer' key' →
        (info = info' ↔ device = device' ∧ server = server') := by
  refine ⟨?_, ?_, ?_, ?_⟩
  · intro p p' K L K' L' hK hL hK' hL'
    have hcontext := contextOfParties_eq p hK hL u.identity v.identity
    have hcontext' := contextOfParties_eq p' hK' hL' u'.identity v'.identity
    refine ⟨⟨_, hcontext⟩, ?_⟩
    rw [hcontext, hcontext', Except.ok.injEq]
    exact PartyEntry.contextBytes_inj hu hv hu' hv'
  · intro p c₁ c₂ own peer
    have hsent := context_publicKey p .send c₁ c₂ own peer
    have hreceived := context_publicKey p .receive c₁ c₂ own peer
    refine ⟨_, _, hsent, hreceived, ?_⟩
    -- to send is to stand in the device's place, to receive in the server's
    rw [contextBytes_partyOf_inj]
    constructor
    · rintro ⟨hsame, -⟩
      exact hsame
    · rintro rfl
      exact ⟨rfl, rfl⟩
  · intro p d own peer length key hkey
    exact exists_derivedWith hkey
  · intro p p' d d' info info' key key' device server device' server' own peer own' peer' h h'
    rw [h.info_eq, h'.info_eq]
    exact contextBytes_partyOf_inj

/-- A byte that moves from the key of the first party to the identity of the second, or two parties
that change places, give another context. -/
theorem context_separates_shifted :
    contextOfParties {} "u" "v" (.bytes [0x61]) (.bytes []) ≠
        contextOfParties {} "u" "av" (.bytes []) (.buffer []) ∧
      contextOfParties {} "u" "v" (.bytes [1]) (.bytes [2]) ≠
        contextOfParties {} "v" "u" (.bytes [2]) (.bytes [1]) := by
  constructor
  · intro h
    have hu : PartyEntry.Fits ⟨"u", [0x61]⟩ := ⟨by decide +kernel, by decide⟩
    have hv : PartyEntry.Fits ⟨"v", []⟩ := ⟨by decide +kernel, by decide⟩
    have hu' : PartyEntry.Fits ⟨"u", []⟩ := ⟨by decide +kernel, by decide⟩
    have hv' : PartyEntry.Fits ⟨"av", []⟩ := ⟨by decide +kernel, by decide⟩
    have hparties := (context_separates hu hv hu' hv').1 {} {}
    have hsame := (hparties (.bytes [0x61]) (.bytes []) (.bytes []) (.buffer []) rfl rfl rfl rfl).2
    exact absurd (hsame.1 h) (by decide)
  · intro h
    have hu : PartyEntry.Fits ⟨"u", [1]⟩ := ⟨by decide +kernel, by decide⟩
    have hv : PartyEntry.Fits ⟨"v", [2]⟩ := ⟨by decide +kernel, by decide⟩
    have hparties := (context_separates hu hv hv hu).1 {} {}
    have hsame := (hparties (.bytes [1]) (.bytes [2]) (.bytes [2]) (.bytes [1]) rfl rfl rfl rfl).2
    exact absurd (hsame.1 h) (by decide)

end DeviceTrust.Agreement
