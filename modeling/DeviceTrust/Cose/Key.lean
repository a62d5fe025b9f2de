import DeviceTrust.Cbor.Coercion
import DeviceTrust.Cbor.Decode
import DeviceTrust.Cbor.Encode
import DeviceTrust.Cose.Secret
import DeviceTrust.Error

/-!
# Structured keys

A structured key is a map of labelled parameters, as it was decoded: parameters keep their types,
so that a check can tell an integer from a byte string. A registered name, as a label or as a
parameter, counts as its number.
-/

set_option autoImplicit false

namespace DeviceTrust

structure CoseKey where
  parameters : Entries

namespace CoseKey

def new (params : Entries) : CoseKey :=
  ⟨Entries.ofList (params.map fun p => (p.1.plainNumber, p.2.plainNumber))⟩

def toValue (k : CoseKey) : Value := .coseKey k.parameters

def find? (k : CoseKey) (label : Value) : Option Value := k.parameters.find? label

/-- The parameter under a registered label; null if there is none. -/
def get (k : CoseKey) (label : KeyLabel) : Value := (k.find? (.int label.number)).getD .null

def hasPrivate (k : CoseKey) : Bool := k.parameters.hasSecret

def publicKey (k : CoseKey) : CoseKey := ⟨k.parameters.withoutSecret⟩

/-- Whether two keys have the same parameters, in any order. -/
def same (a b : CoseKey) : Bool := a.toValue.same b.toValue

/-! ## Looking up any value -/

/-- The parameter under any value as a label, if the value can be one. -/
def lookup (k : CoseKey) (label : Value) : Except Fault (Option Value) := do
  label.requireLabel
  return k.find? label

/-! ## The wire -/

def encode (k : CoseKey) : Except Error Bytes :=
  match Cbor.encode? (.map .plain k.parameters) with
  | some b => .ok b
  | none => .error (.fault (.plain .unencodable))

end CoseKey

/-- The item at the front of untrusted bytes. -/
def WireItem.decode (item : WireItem) (b : Bytes) : Except Error Value :=
  match Cbor.decode? b with
  | some v => .ok v
  | none => .error (.undecodable item (.plain .malformed))

/-- A value as it is, or the item that a byte string encodes. -/
def WireItem.read (item : WireItem) (v : Value) : Except Error Value :=
  match v.byteString? with
  | some b => item.decode b
  | none => .ok v

namespace CoseKey

def ofMap (v : Value) : Except Error CoseKey :=
  match v with
  | .coseKey entries => .ok ⟨entries⟩
  | .map _ entries => .ok (new entries)
  | v => .error (.keyNotMap v.typeName)

def decode (v : Value) : Except Error CoseKey := do ofMap (← WireItem.key.read v)

end CoseKey

end DeviceTrust
