import DeviceTrust.Cbor.Kind
import DeviceTrust.Cbor.TaggedObject
import DeviceTrust.Cose.Registry
import DeviceTrust.Key.Material

/-!
# Values

What a caller may hand in and a decoder may hand out: the items of CBOR, and the objects that can
stand where an item is expected (structured keys, signed messages, key objects, sets, the objects
that tags stand for). Maps keep their entries in order.

Private keys, key pairs and objects of unknown types are each the same as nothing but themselves,
whatever they hold; a mark tells them apart. A not-a-number has no value to be the same by either,
and its payload serves as its mark.
-/

set_option autoImplicit false

namespace DeviceTrust

/-- The flavour of a map; entries and look-up are the same for all. -/
inductive MapFlavour where
  | plain
  | readOnly
  | frozen
  deriving DecidableEq, Repr

/-- What tells an object that is the same only as itself from others like it. An object that is met
once needs none and has the mark 0, which is the same as no mark. -/
abbrev Mark := Nat

def Mark.same (a b : Mark) : Bool := a == b && a != 0

/-- A CBOR item, or an object that stands where an item is expected. -/
inductive Value where
  /-- The simple value null. -/
  | null
  /-- The simple values false and true. -/
  | bool (b : Bool)
  /-- An integer of any size. -/
  | int (n : Int)
  /-- An integer written by its registered name. -/
  | registered (r : Registered)
  /-- A floating-point number. -/
  | float (x : Binary64)
  /-- A text. -/
  | text (s : String)
  /-- A byte string. -/
  | bytes (b : Bytes)
  /-- A byte string that can be overwritten. -/
  | buffer (b : Bytes)
  /-- An array. -/
  | list (items : List Value)
  /-- An array that cannot change, as it appears in map keys and unknown tags. -/
  | tuple (items : List Value)
  /-- A map. -/
  | map (flavour : MapFlavour) (entries : List (Value × Value))
  /-- A tagged item whose tag has no meaning to the decoder. -/
  | tag (number : Nat) (content : Value)
  /-- A simple value without a meaning. -/
  | simple (code : UInt8)
  /-- The simple value undefined. -/
  | undefined
  /-- A wire type, as a value of its own. -/
  | kind (k : Kind)
  /-- A structured key with its parameters. -/
  | coseKey (entries : List (Value × Value))
  /-- A signed message. -/
  | message (protectedHeader unprotectedHeader payload signature : Value)
  /-- A public key. -/
  | publicKey (k : PublicKey)
  /-- A private key. -/
  | privateKey (k : PrivateKey) (mark : Mark)
  /-- A key pair. -/
  | keyPair (k : KeyPair) (mark : Mark)
  /-- An object that a tag stands for. -/
  | object (o : TaggedObject)
  /-- A set, by its elements in the order in which they came. -/
  | set (frozen : Bool) (elements : List Value)
  /-- An object of which nothing is known. -/
  | unknown (mark : Mark)

instance : Inhabited Value := ⟨.null⟩

/-- The entries of a map, in order. -/
abbrev Entries := List (Value × Value)

namespace Value

/-- The wire type of a value. A value with no place in CBOR, or a simple value without a meaning,
counts as undefined. -/
def kindOf : Value → Kind
  | null | bool _ => .simpleValue
  | int _ | registered _ => .integer
  | bytes _ | buffer _ => .byteString
  | text _ => .textString
  | list _ | tuple _ => .array
  | map _ _ | coseKey _ => .map
  | float _ => .float
  | tag _ _ => .tag
  | simple _ | undefined | kind _ | message _ _ _ _ | publicKey _ | privateKey _ _ | keyPair _ _
  | object _ | set _ _ | unknown _ => .undefined

def typeName : Value → String
  | null => "NoneType"
  | bool _ => "bool"
  | int _ => "int"
  | registered r => r.registry
  | float _ => "float"
  | text _ => "str"
  | bytes _ => "bytes"
  | buffer _ => "bytearray"
  | list _ => "list"
  | tuple _ => "tuple"
  | map .plain _ => "dict"
  | map .readOnly _ => "mappingproxy"
  | map .frozen _ => "frozendict"
  | tag _ _ => "CBORTag"
  | simple _ => "CBORSimpleValue"
  | undefined => "UndefinedType"
  | kind _ => "CborType"
  | coseKey _ => "CoseKey"
  | message _ _ _ _ => "Sign1Message"
  | publicKey k => k.typeName
  | privateKey k _ => k.typeName
  | keyPair _ _ => "X25519KeyPair"
  | object o => o.typeName
  | set false _ => "set"
  | set true _ => "frozenset"
  | unknown _ => "Opaque"

/-- The integer that a value is: a named number counts, a boolean does not. -/
def int? : Value → Option Int
  | int n => some n
  | registered r => some r.number
  | _ => none

/-- The integer that a value counts as where any whole number will do, a boolean included. -/
def wholeNumber? : Value → Option Int
  | bool b => some (if b then 1 else 0)
  | v => v.int?

def byteString? : Value → Option Bytes
  | bytes b | buffer b => some b
  | _ => none

def items? : Value → Option (List Value)
  | list items | tuple items => some items
  | _ => none

/-- The entries of a map of any flavour, or of a structured key. -/
def entries? : Value → Option Entries
  | map _ entries | coseKey entries => some entries
  | _ => none

def length? : Value → Option Nat
  | text s => some s.length
  | bytes b | buffer b => some b.length
  | list items | tuple items | set _ items => some items.length
  | map _ entries | coseKey entries => some entries.length
  | _ => none

/-- Whether a value counts as nothing: null, undefined, false, zero, or without elements. -/
def isEmpty : Value → Bool
  | null | undefined => true
  | bool b => !b
  | int n => n == 0
  | registered _ => false
  | float x => x.isZero
  | object o => o.isZero
  | v => v.length? == some 0

/-- A named number as the plain number, any other value as it is. -/
def plainNumber : Value → Value
  | registered r => int r.number
  | v => v

@[simp] theorem kindOf_plainNumber (v : Value) : v.plainNumber.kindOf = v.kindOf := by
  cases v <;> rfl

end Value

end DeviceTrust
