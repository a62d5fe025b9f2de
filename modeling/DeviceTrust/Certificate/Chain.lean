import DeviceTrust.Certificate

/-!
# Boot certificate chains

A boot chain anchors a device key to a root key: it is an array of the root's structured key and a
certificate of the device's key, signed by the root. Only this one link is checked, and a longer
chain is refused rather than checked in part.
-/

set_option autoImplicit false

namespace DeviceTrust.Chain

def logger : String := "provisioning.certificates.bcc"

/-! ## Validation -/

def entries (chain : Value) : Except Error (List Value) := do
  let v ← WireItem.chain.read chain
  match v.items? with
  | some items => return items
  | none => throw (.chainShape v.kindOf)

/-- Whether the root's key signed the device's certificate. -/
def linkHolds (p : Platform) (pr : Provider) (root device : Value) : Traced Bool := do
  let rootKey ← CoseKey.decode root
  let certificate ← SignedMessage.decode device
  pr.verify p certificate rootKey.toValue

def reworded (e : Error) : Error := if e.isReported then .brokenLink e else e

/-- **Whether a chain holds.** A chain that cannot be read, has another length than two, or has an
unusable entry is a verification failure. -/
def validate (p : Platform) (pr : Provider) (chain : Value) : Traced Bool := do
  let items ← (entries chain).mapError Error.unreadableChain
  match items with
  | [root, device] =>
    let valid ← (linkHolds p pr root device).mapError reworded
    if !valid then p.log Level.warning logger "Boot certificate chain signature mismatch"
    return valid
  | _ =>
    p.log Level.warning logger s!"Rejecting boot certificate chain of length {items.length}"
    Traced.fail (.chainLength items.length)

/-! ## Construction -/

/-- The public key to publish for a root: of a private key its own, and of a structured key all but
its secret part. -/
def rootPublicKey (root : Value) : Except Error Value :=
  match root with
  | .privateKey k _ =>
    match k.publicKey? with
    | some q => .ok (.publicKey q)
    | none => .error (.fault (.plain .attribute))
  | .coseKey es => .ok (CoseKey.mk es).publicKey.toValue
  | .keyPair _ _ => .error (.fault (.plain .type))
  | _ => .error (.fault (.plain .attribute))

/-- **Builds the chain for a device key**: the root's structured key as a map, and the certificate
as a tagged array. The root's public key is its own unless another is given. -/
def build (p : Platform) (pr : Provider) (root device : Value) (published : Value := .null) :
    Traced (List Value) := do
  let published ← if published matches .null then rootPublicKey root else pure published
  let rootKey ← CoseKey.ofValue p published
  let certificate ← Certificate.signPublicKey p pr root device
  let tagged ← certificate.toTagged
  return [.map .plain rootKey.parameters, tagged]

def encode (chain : Value) : Except Error Bytes := do
  match Cbor.encode? (.list (← chain.elements.mapError Error.fault)) with
  | some b => .ok b
  | none => .error (.fault (.plain .unencodable))

end DeviceTrust.Chain
