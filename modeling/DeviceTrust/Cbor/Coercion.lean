import DeviceTrust.Cbor.Encode
import DeviceTrust.Cbor.Entries
import DeviceTrust.Fault
import DeviceTrust.Text.Integer

/-!
# Values where bytes, elements, entries or a whole number are asked for

A byte string is bytes, and so is an array or set of numbers below 256, and a map stands for its
labels. A whole number stands for that many zero bytes. Wherever elements are asked for, a text
gives its characters, a byte string its numbers and a map its labels; a map is also what an array
of pairs gives. A whole number can also be written as text, as ASCII bytes, or as a floating-point
number, whose fraction is cut off.
-/

set_option autoImplicit false

namespace DeviceTrust

/-- Bytes that are given, or a number of zero bytes that need not be written out. -/
inductive ByteSource where
  | given (b : Bytes)
  | zeros (count : Nat)
  deriving DecidableEq, Repr

namespace ByteSource

def length : ByteSource → Nat
  | given b => b.length
  | zeros count => count

def bytes : ByteSource → Bytes
  | given b => b
  | zeros count => Bytes.zeros count

@[simp] theorem length_bytes (s : ByteSource) : s.bytes.length = s.length := by
  cases s <;> simp [bytes, length, Bytes.zeros]

end ByteSource

namespace Value

/-! ## Bytes -/

/-- The elements of an array, a set or a map, which are the labels of a map. -/
def collection? : Value → Option (List Value)
  | list items | tuple items | set _ items => some items
  | map _ es | coseKey es => some (es.map (·.1))
  | _ => none

def toByte (v : Value) : Except Fault UInt8 :=
  match v.wholeNumber? with
  | none => .error (.plain .type)
  | some n => if 0 ≤ n && n < 256 then .ok (UInt8.ofNat n.toNat) else .error (.plain .value)

/-- The greatest number that can count bytes. -/
def greatestCount : Int := 0x7fffffffffffffff

/-- The greatest number of bytes that can be asked for: with what a byte string needs besides its
bytes, its size can still be counted. -/
def greatestSize : Int := greatestCount - 33

/-- The bytes that a value stands for; `memory` is the number of bytes from which on there is not
enough memory. -/
def toBytes (v : Value) (memory : Nat) : Except Fault ByteSource :=
  match v.byteString?, v.collection?, v.wholeNumber? with
  | some b, _, _ => .ok (.given b)
  | _, some items, _ => (items.mapM toByte).map .given
  | _, _, some n =>
    if n < -greatestCount - 1 || greatestSize < n then .error (.plain .overflow)
    else if n < 0 then .error (.plain .value)
    else if (memory : Int) ≤ n then .error (.plain .memory)
    else .ok (.zeros n.toNat)
  | _, _, _ => .error (.plain .type)

def requireByteString (v : Value) : Except Fault Bytes :=
  match v.byteString? with
  | some b => .ok b
  | none => .error (.plain .type)

def requireLength (v : Value) : Except Fault Nat :=
  match v.length? with
  | some n => .ok n
  | none => .error (.plain .type)

theorem toBytes_of_byteString? {v : Value} {b : Bytes} (h : v.byteString? = some b)
    (memory : Nat) : v.toBytes memory = .ok (.given b) := by
  unfold toBytes
  rw [h]

theorem requireLength_eq_ok_iff {v : Value} {n : Nat} :
    v.requireLength = .ok n ↔ v.length? = some n := by
  unfold requireLength
  split
  · rename_i m hm
    simp [hm]
  · rename_i hm
    simp [hm]

theorem requireLength_of_byteString? {v : Value} {b : Bytes} (h : v.byteString? = some b) :
    v.requireLength = .ok b.length := by
  cases v with
  | bytes _ | buffer _ => cases h; rfl
  | _ => cases h

/-! ## Elements and entries -/

mutual

/-- The class of the fault with which a value is refused as a label; none if it can be one. What can
change is no label, nor is a public key or anything that holds one of these; inside a tag every
such fault breaks down. A structured key stands for its encoding. -/
def labelFault? : Value → Option FaultClass
  | buffer _ | list _ | publicKey _ | set false _ | map .plain _ | map .readOnly _ => some .type
  | map .frozen es => entryFault? es
  | tuple items => itemFault? items
  | tag _ content => (labelFault? content).map fun _ => .broken
  | message p _ q s => labelFault? p <|> labelFault? q <|> labelFault? s
  | coseKey es => if (Cbor.encode? (map .plain es)).isSome then none else some .unencodable
  | _ => none

def itemFault? : List Value → Option FaultClass
  | [] => none
  | x :: rest => labelFault? x <|> itemFault? rest

def entryFault? : Entries → Option FaultClass
  | [] => none
  | (k, v) :: rest => labelFault? k <|> labelFault? v <|> entryFault? rest

end

def requireLabel (v : Value) : Except Fault Unit :=
  match v.labelFault? with
  | none => .ok ()
  | some c => .error (.plain c)

/-- The elements of a value: the items of an array, the characters of a text, the numbers of a byte
string, the labels of a map. -/
def elements (v : Value) : Except Fault (List Value) :=
  match v with
  | text s => .ok (s.toList.map fun c => text c.toString)
  | bytes b | buffer b => .ok (b.map fun x => int x.toNat)
  | v =>
    match v.collection? with
    | some items => .ok items
    | none => .error (.plain .type)

/-- The entry that a value of two elements stands for; the first of them must be able to be a
label. -/
def toEntry (v : Value) : Except Fault (Value × Value) := do
  match ← v.elements with
  | [label, content] =>
    label.requireLabel
    return (label, content)
  | _ => throw (.plain .value)

/-- The entries of a map, or those that the elements of a value stand for. -/
def toEntries (v : Value) : Except Fault Entries :=
  match v.entries? with
  | some es => .ok es
  | none => do return Entries.ofList (← (← v.elements).mapM toEntry)

/-! ## Whole numbers -/

/-- A byte of a numeral as a character; outside ASCII's graphic characters and blanks it is one
that no numeral holds. -/
def numeralChar (x : UInt8) : Char :=
  if (9 ≤ x && x ≤ 13) || (32 ≤ x && x < 127) then Char.ofNat x.toNat else '\x00'

/-- The whole number that a numeral stands for; `shown` is how a message shows the numeral. -/
def ofNumeral (numeral : List Char) (shown : String) : Except Fault Int :=
  match Text.integer numeral with
  | .ok n => .ok n
  | .error .malformed => .error (.notNumeral shown)
  | .error .tooLong => .error (.plain .value)

/-- The whole number that an object stands for: a number without its fraction, or the number with
the bytes of an identifier or an address. -/
def ofObject : TaggedObject → Except Fault Int
  | .decimal x => .ok x.exact.truncate
  | .fraction x => .ok x.truncate
  | .identifier b | .address b => .ok (Bytes.toNatBE b)
  | _ => .error (.plain .type)

def toWholeNumber : Value → Except Fault Int
  | text s => ofNumeral s.toList (Text.quoted s)
  | bytes b | buffer b =>
    ofNumeral (b.map numeralChar) (Text.quotedBytes (b.take Fault.shownNumeralLength))
  | float x =>
    match x.meaning with
    | .notANumber => .error (.plain .value)
    | .infinite _ => .error (.plain .overflow)
    | .finite negative m q => .ok (Binary64.truncate negative m q)
  | object o => ofObject o
  | v =>
    match v.wholeNumber? with
    | some n => .ok n
    | none => .error (.plain .type)

end Value

end DeviceTrust
