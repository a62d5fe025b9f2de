import DeviceTrust.Cose.Header

/-!
# Signed messages

A message with one signature has four parts: a protected header, an unprotected header, a payload
and the signature. The signature covers the encoding of an array of a fixed text, the protected
header, external data and the payload. On the wire a message is an array of its parts under a tag;
a reader takes encoded bytes, the tagged array or the bare array.
-/

set_option autoImplicit false

namespace DeviceTrust

/-- A signed message. A decoded message holds byte strings and a map; a message that is put
together by hand may hold anything. -/
structure SignedMessage where
  protectedHeader : Value
  unprotectedHeader : Value
  payload : Value
  signature : Value

namespace SignedMessage

def toValue (m : SignedMessage) : Value :=
  .message m.protectedHeader m.unprotectedHeader m.payload m.signature

def ofValue? : Value → Option SignedMessage
  | .message p u q s => some ⟨p, u, q, s⟩
  | _ => none

/-! ## What is signed -/

def signedValue (protectedHeader payload external : Value) : Value :=
  .list [.text Parameters.signatureContext, protectedHeader, external, payload]

def signedBytes (protectedHeader payload external : Value) : Except Error Bytes :=
  match Cbor.encode? (signedValue protectedHeader payload external) with
  | some b => .ok b
  | none => .error (.fault (.plain .unencodable))

/-- The bytes that the message's signature covers, with external data. -/
def toBeSigned (m : SignedMessage) (external : Value := .bytes []) : Except Error Bytes :=
  signedBytes m.protectedHeader m.payload external

def header (m : SignedMessage) : Except Error Entries := Header.decode m.protectedHeader

/-- The algorithm that the protected header names; null if it names none. -/
def algorithm (m : SignedMessage) : Except Error Value := do return Header.algorithm (← m.header)

/-! ## Writing -/

def unprotectedMap (v : Value) : Except Error Value :=
  (v.toEntries.map (Value.map .plain)).mapError Error.fault

def toTagged (m : SignedMessage) : Except Error Value := do
  let unprotectedHeader ← unprotectedMap m.unprotectedHeader
  return .tag Parameters.messageTag
    (.list [m.protectedHeader, unprotectedHeader, m.payload, m.signature])

def encode (m : SignedMessage) : Except Error Bytes := do
  match Cbor.encode? (← m.toTagged) with
  | some b => .ok b
  | none => .error (.fault (.plain .unencodable))

/-! ## Reading -/

/-- A value without the tag of a signed message, if it has a tag. -/
def untagged (v : Value) : Except Error Value :=
  match v with
  | .tag number content =>
    if number = Parameters.messageTag then .ok content else .error (.messageTag number)
  | v => .ok v

def requirePart (part : MessagePart) (v : Value) : Except Error Unit :=
  if v.kindOf = part.kind then .ok () else .error (.messagePart part v.kindOf)

/-- The message with the four parts of an array. A malformed protected header is refused at
once. -/
def ofArray (v : Value) : Except Error SignedMessage :=
  match v.items? with
  | some [p, u, q, s] => do
    requirePart .protectedHeader p
    requirePart .unprotectedHeader u
    requirePart .payload q
    requirePart .signature s
    let protectedBytes := p.byteString?.getD []
    let _ ← Header.decode (.bytes protectedBytes)
    return ⟨.bytes protectedBytes, .map .plain (u.entries?.getD []),
      .bytes (q.byteString?.getD []), .bytes (s.byteString?.getD [])⟩
  | _ => .error (.messageShape v.kindOf)

/-- **The message in any of its forms.** -/
def decode (v : Value) : Except Error SignedMessage :=
  match ofValue? v with
  | some m => .ok m
  | none => do ofArray (← untagged (← WireItem.message.read v))

end SignedMessage

end DeviceTrust
