import DeviceTrust.Key.Codec
import DeviceTrust.Key.Derivation

/-!
# Key agreement

Two parties, a device and a server, derive one key for each direction from one X25519 exchange. The
context of the derivation names the device's key before the server's, whichever side derives: to
send is to act as the device, and to receive is to let the other side act as the device. So what
one side sends with, the other receives with, and no message can be reflected. The secret of the
exchange stands in a buffer while the key is derived from it, and is wiped on every way out.
-/

set_option autoImplicit false

namespace DeviceTrust.Agreement

def logger : String := "provisioning.security.key_agreement"

/-! ## Pairs and secrets -/

def pairOf? (secret : PrivateKey) : Option KeyPair :=
  secret.publicKey?.map fun k => ⟨secret, k⟩

def x25519Pair (k : RawKey) : KeyPair where
  secret := .x25519 k
  publicKey := .x25519 k.x25519Public

/-- The pair of the private key that a value is. The public key of a pair is at hand and not for
asking, and any other value has none. -/
def pairOf (v : Value) : Except Fault KeyPair :=
  match v with
  | .privateKey secret _ =>
    match pairOf? secret with
    | some pair => .ok pair
    | none => .error (.plain .attribute)
  | .keyPair _ _ => .error (.plain .type)
  | _ => .error (.plain .attribute)

def generate (p : Platform) (random : RawKey) : Except Error KeyPair := do
  p.require .x25519Generate
  return x25519Pair random

/-- **The secret that a private key shares with a public key.** The zero secret is refused: it tells
nothing about the private key. -/
def sharedSecret (own peer : Value) : Except Error Bytes :=
  match own, peer with
  | .privateKey (.x25519 k) _, .publicKey (.x25519 u) =>
    let secret := X25519.shared k.bytes u.bytes
    if secret.all (· == 0) then .error (.zeroSecret (.plain .value)) else .ok secret
  | .privateKey .faultyExchange _, .publicKey (.x25519 _) => .error (.missing .x25519Exchange)
  | _, _ => .error .agreementKeys

/-! ## Secrets in a buffer -/

def overwrite {α : Type} (a : α) (items : List α) : List α :=
  (List.range items.length).foldl (fun items place => items.set place a) items

def wipe (buffer : Bytes) : Bytes := overwrite 0 buffer

/-- A value with a zero in each of its places. A map has the numbers of its entries for places; a
value that cannot change must have no place at all. -/
def wipeValue (v : Value) : Except Fault Value :=
  match v with
  | .buffer b => .ok (.buffer (wipe b))
  | .list items => .ok (.list (overwrite (.int 0) items))
  | .map .plain es =>
    let places := (List.range es.length).map fun (i : Nat) => Value.int i
    .ok (.map .plain (places.foldl (fun es place => Entries.insert es place (.int 0)) es))
  | v => if v.length? = some 0 then .ok v else .error (.plain .type)

/-- A value wiped through a view of its bytes. -/
def wipeView (v : Value) : Except Fault Value :=
  if v.byteString?.isSome then wipeValue v else .error (.plain .type)

/-- What an operation works on: the log records so far, and a buffer for a secret, which is empty before
there is one. -/
structure Workspace where
  records : List LogRecord
  buffer : Bytes

/-- An operation on a workspace. What it changed before an error stays changed. -/
abbrev Working (α : Type) := ExceptT Error (StateM Workspace) α

namespace Working

/-- How an operation ends, and what it leaves behind. -/
def run {α : Type} (x : Working α) (w : Workspace) : Except Error α × Workspace :=
  (ExceptT.run x).run w

/-- The operation with its records, from an empty workspace. What it leaves in the buffer is out of
sight. -/
def traced {α : Type} (x : Working α) : Traced α :=
  let (result, w) := x.run ⟨[], []⟩
  ⟨w.records, result⟩

instance : MonadLift Traced Working where
  monadLift x w := (x.result, { w with records := w.records ++ x.records })

def held : Working Bytes := return (← get).buffer

def hold (secret : Bytes) : Working Unit := modify fun w => { w with buffer := secret }

def wipeHeld : Working Unit := modify fun w => { w with buffer := wipe w.buffer }

end Working

/-- **Uses the secret that two keys share.** It stands in the buffer as long as it is used, and the
buffer is wiped whatever comes of it. -/
def withSecret {α : Type} (own peer : Value) (use : Working α) : Working α := do
  Working.hold (← sharedSecret own peer)
  try
    use
  finally
    Working.wipeHeld

/-! ## The context -/

/-- What the context says of a party: its identity, an empty nonce, and its public key. -/
def partyInfo (p : Platform) (identity key : Value) : Except Error Value :=
  match key.toBytes p.memory with
  | .ok source => .ok (.list [identity, .bytes [], .bytes source.bytes])
  | .error f => .error (.fault f)

def contextValue (u v : Value) : Value :=
  .list [.int Algorithm.a256gcm.number, u, v,
    .list [.int Parameters.contextKeyBits, .bytes []]]

def context (u v : Value) : Except Error Bytes :=
  match Cbor.encode? (contextValue u v) with
  | some b => .ok b
  | none => .error (.fault (.plain .unencodable))

def contextOfKeys (p : Platform) (device server : Bytes) : Except Error Bytes := do
  let u ← partyInfo p (.text Party.device.identity) (.bytes device)
  let v ← partyInfo p (.text Party.server.identity) (.bytes server)
  context u v

/-! ## Directional keys -/

inductive Direction where
  | send | receive
  deriving DecidableEq, Repr

def Direction.name : Direction → String
  | send => "send" | receive => "receive"

def Direction.context (d : Direction) (p : Platform) (own peer : PublicKey) : Except Error Bytes := do
  match d with
  | send =>
    let device ← own.toRaw
    let server ← peer.toRaw
    contextOfKeys p device server
  | receive =>
    let device ← peer.toRaw
    let server ← own.toRaw
    contextOfKeys p device server

def loggedDigestLength : Nat := 8

/-- Logs a derived key by its length and its peer; the peer's identifier is computed only if the
record is kept. -/
def logDerived (p : Platform) (d : Direction) (length : Int) (peer : PublicKey) : Traced Unit :=
  if p.threshold ≤ Level.debug then do
    let digest ← peer.digest p
    p.log Level.debug logger
      (s!"Derived {d.name} key ({length} bytes) for peer " ++
        Bytes.hex (digest.take loggedDigestLength))
  else pure ()

/-- The key for a direction under a context. It is logged once the secret is wiped. -/
def keyInContext (p : Platform) (d : Direction) (own : KeyPair) (peer : PublicKey) (info : Bytes)
    (length? : Option Int) : Working Bytes := do
  let length := length?.getD Parameters.derivedKeyLength
  let key ← withSecret (.privateKey own.secret 0) (.publicKey peer) do
    p.derive (← Working.held) length info none
  logDerived p d length peer
  return key

/-- **The key for a direction.** -/
def directionalKey (p : Platform) (d : Direction) (own : KeyPair) (peer : PublicKey)
    (length? : Option Int) : Traced Bytes := do
  let info ← d.context p own.publicKey peer
  (keyInContext p d own peer info length?).traced

/-! ## Directional keys from values of any sort -/

def ownRaw (own : Value) : Except Error Bytes :=
  match own with
  | .keyPair pair _ => pair.publicKey.toRaw
  | _ => .error (.fault (.plain .attribute))

/-- Fails unless the keys for a direction have raw bytes; the device's key comes first. -/
def Direction.requireKeys (d : Direction) (own peer : Value) : Except Error Unit := do
  match d with
  | send =>
    let _ ← ownRaw own
    let _ ← peer.toRaw
  | receive =>
    let _ ← peer.toRaw
    let _ ← ownRaw own

/-- The length that a value asks for, if it is one: null asks for the usual length, and false is no
number of bytes. -/
def requestedLength? (v : Value) : Option (Option Int) :=
  match v with
  | .null => some none
  | .bool false => none
  | v => v.wholeNumber?.map some

/-- The key for a direction from values of any sort. A length that is none fails in its place, after
the exchange. -/
def directionalKeyOf (p : Platform) (d : Direction) (own peer length : Value) : Traced Bytes := do
  d.requireKeys own peer
  match own, peer, requestedLength? length with
  | .keyPair pair _, .publicKey peer, some length? => directionalKey p d pair peer length?
  | .keyPair pair _, peer, _ =>
    Working.traced <| withSecret (.privateKey pair.secret 0) peer do
      p.deriveOf (.buffer (← Working.held)) length (.bytes []) .null
  | _, _, _ => Traced.fail (.fault (.plain .attribute))

end DeviceTrust.Agreement
