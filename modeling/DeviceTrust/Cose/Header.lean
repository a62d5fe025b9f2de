import DeviceTrust.Cbor.Coercion
import DeviceTrust.Cose.Key

/-!
# Protected headers

A protected header is a map that is encoded on its own, so that a signature covers its bytes. The
empty map is written as no bytes at all. Labels are whole numbers, in whatever spelling they are
given.
-/

set_option autoImplicit false

namespace DeviceTrust.Header

/-- The entries of a header with their labels as whole numbers; labels that are the same number
are one label. -/
def numbered (es : Entries) : Except Fault Entries := do
  let pairs ← es.mapM fun p => do return (Value.int (← p.1.toWholeNumber), p.2)
  return Entries.ofList pairs

def encode (header : Value) : Except Error Bytes :=
  if header.isEmpty then .ok []
  else match header.entries? with
    | none => .error (.fault (.plain .attribute))
    | some es =>
      match numbered es with
      | .error f => .error (.fault f)
      | .ok es =>
        match Cbor.encode? (.map .plain es) with
        | some b => .ok b
        | none => .error (.fault (.plain .unencodable))

def ofValue (v : Value) : Except Error Entries :=
  match v.entries? with
  | some es => .ok es
  | none => .error (.headerNotMap v.kindOf)

def decode (encoded : Value) : Except Error Entries :=
  if encoded.isEmpty then .ok []
  else match encoded.byteString? with
    | none => .error (.fault (.plain .type))
    | some b => do ofValue (← WireItem.header.decode b)

/-- The algorithm that a header names; null if it names none. -/
def algorithm (es : Entries) : Value :=
  (es.find? (.int Parameters.algorithmLabel)).getD .null

end DeviceTrust.Header
