import DeviceTrust.Cbor.Value
import DeviceTrust.Text.DateForm

/-!
# Writing CBOR

Every value with a place in CBOR has one encoding: shortest heads, definite lengths, maps in the
order of their entries. Integers beyond 64 bits are written as big numbers. Floating-point numbers
take eight bytes, except infinities and numbers that are none, which take two. An object that a tag
stands for is written under that tag.
-/

set_option autoImplicit false

namespace DeviceTrust.Cbor

/-- The head of an item: its major type and an argument below `2 ^ 64`, in the fewest bytes. -/
def head (major : Nat) (n : Nat) : Bytes :=
  let first (info : Nat) : UInt8 := UInt8.ofNat (32 * major + info)
  if n < 24 then [first n]
  else if n < 0x100 then first 24 :: Bytes.ofNatBE 1 n
  else if n < 0x10000 then first 25 :: Bytes.ofNatBE 2 n
  else if n < 0x100000000 then first 26 :: Bytes.ofNatBE 4 n
  else first 27 :: Bytes.ofNatBE 8 n

def encodeBytes (b : Bytes) : Bytes := head 2 b.length ++ b

def encodeText (s : String) : Bytes :=
  let b := Bytes.ofText s
  head 3 b.length ++ b

/-- An integer; one beyond 64 bits is a tagged byte string of its magnitude. -/
def encodeInt : Int → Bytes
  | .ofNat n =>
    if n < 0x10000000000000000 then head 0 n else head 6 2 ++ encodeBytes (Bytes.minimalBE n)
  | .negSucc n =>
    if n < 0x10000000000000000 then head 1 n else head 6 3 ++ encodeBytes (Bytes.minimalBE n)

def encodeFloat (x : Binary64) : Bytes :=
  match x.meaning with
  | .notANumber => [0xf9, 0x7e, 0x00]
  | .infinite false => [0xf9, 0x7c, 0x00]
  | .infinite true => [0xf9, 0xfc, 0x00]
  | .finite _ _ _ => 0xfb :: Bytes.ofNatBE 8 x.bits.toNat

def encodeSimple (code : UInt8) : Bytes := head 7 code.toNat

/-! ## Objects that tags stand for -/

def setTag : Nat := 258

def encodePair (number : Nat) (a b : Bytes) : Bytes := head 6 number ++ head 4 2 ++ a ++ b

/-- The encoding of an object that a tag stands for. A point in time without a zone has none. -/
def encodeObject? : TaggedObject → Option Bytes
  | .moment m => (Text.momentForm? m).map fun s => head 6 0 ++ encodeText s
  | .date day => some (head 6 1004 ++ encodeText (Text.dateForm day))
  | .decimal x =>
    some (encodePair 4 (encodeInt x.exponent)
      (encodeInt (Binary64.signed x.negative x.coefficient)))
  | .fraction x =>
    some (encodePair 30 (encodeInt (Binary64.signed x.negative x.fraction.1))
      (encodeInt x.fraction.2))
  | .complex re im => some (encodePair 43000 (encodeFloat re) (encodeFloat im))
  | .pattern (.text s) => some (head 6 35 ++ encodeText s)
  | .pattern (.bytes b) => some (head 6 35 ++ encodeBytes b)
  | .identifier b => some (head 6 37 ++ encodeBytes b)
  | .address b => some (head 6 260 ++ encodeBytes b)

/-! ## Items -/

mutual

/-- The encoding of a value; none if it, or something inside it, has no place in CBOR. -/
def encode? : Value → Option Bytes
  | .null => some [0xf6]
  | .bool b => some [if b then 0xf5 else 0xf4]
  | .int n => some (encodeInt n)
  | .registered r => some (encodeInt r.number)
  | .float x => some (encodeFloat x)
  | .text s => some (encodeText s)
  | .bytes b | .buffer b => some (encodeBytes b)
  | .list items => (encodeItems? items).map (head 4 items.length ++ ·)
  | .tuple items => (encodeItems? items).map (head 4 items.length ++ ·)
  | .map _ entries => (encodeEntries? entries).map (head 5 entries.length ++ ·)
  | .coseKey entries => (encodeEntries? entries).map (head 5 entries.length ++ ·)
  | .tag number content => (encode? content).map (head 6 number ++ ·)
  | .simple code => some (encodeSimple code)
  | .undefined => some [0xf7]
  | .set _ items =>
    (encodeItems? items).map (head 6 setTag ++ head 4 items.length ++ ·)
  | .object o => encodeObject? o
  | .kind _ | .message _ _ _ _ | .publicKey _ | .privateKey _ _ | .keyPair _ _ | .unknown _ => none

def encodeItems? : List Value → Option Bytes
  | [] => some []
  | x :: rest => do return (← encode? x) ++ (← encodeItems? rest)

def encodeEntries? : Entries → Option Bytes
  | [] => some []
  | (k, v) :: rest => do return (← encode? k) ++ (← encode? v) ++ (← encodeEntries? rest)

end

end DeviceTrust.Cbor
