import DeviceTrust.Number.Decimal
import DeviceTrust.Text.Pattern
import DeviceTrust.Text.Timestamp

/-!
# Objects that tags stand for

A tag can make its content a point in time, a date, a number outside the integers and the
floating-point numbers, a regular expression, an identifier or a network address. Such objects have
no other place among the items of CBOR; what matters of them is their type and their value.
-/

set_option autoImplicit false

namespace DeviceTrust

inductive TaggedObject where
  /-- A point in time. -/
  | moment (m : Text.Moment)
  /-- A day, counted from the start of 1970. -/
  | date (day : Int)
  /-- A decimal number. -/
  | decimal (x : Decimal)
  /-- A rational number. -/
  | fraction (x : Exact)
  /-- A complex number, by its real and its imaginary part. -/
  | complex (re im : Binary64)
  /-- A regular expression. -/
  | pattern (p : Text.Pattern)
  /-- A universal identifier of sixteen bytes. -/
  | identifier (b : Bytes)
  /-- A network address of four or sixteen bytes. -/
  | address (b : Bytes)
  deriving DecidableEq

namespace TaggedObject

/-- The name of an object's type in messages. -/
def typeName : TaggedObject → String
  | moment _ => "datetime"
  | date _ => "date"
  | decimal _ => "Decimal"
  | fraction _ => "Fraction"
  | complex _ _ => "complex"
  | pattern _ => "Pattern"
  | identifier _ => "UUID"
  | address b => if b.length = 4 then "IPv4Address" else "IPv6Address"

/-- The real number that an object is; a complex number is one if it has no imaginary part. -/
def real? : TaggedObject → Option Exact
  | decimal x => some x.exact
  | fraction x => some x
  | complex re im => if im.isZero then Exact.ofBinary64? re else none
  | _ => none

/-- Whether an object is the given floating-point number. An infinite number is no real number, but
can be a complex one without an imaginary part. -/
def sameAsFloat (x : Binary64) : TaggedObject → Bool
  | complex re im => im.isZero && re.equals x
  | o => match o.real?, Exact.ofBinary64? x with
    | some a, some b => a == b
    | _, _ => false

/-- Whether two objects are the same: numbers by their value, whatever their type, and other objects
by type and value. -/
def same (a b : TaggedObject) : Bool :=
  match a, b with
  | complex r i, complex r' i' => r.equals r' && i.equals i'
  | complex r i, o | o, complex r i => i.isZero && o.sameAsFloat r
  | moment m, moment n => m.same n
  | a, b => match a.real?, b.real? with
    | some x, some y => x == y
    | _, _ => a == b

/-- Whether an object counts as nothing, which a zero of any type does. -/
def isZero : TaggedObject → Bool
  | decimal x => x.coefficient == 0
  | fraction x => x.isZero
  | complex re im => re.isZero && im.isZero
  | _ => false

end TaggedObject

end DeviceTrust
