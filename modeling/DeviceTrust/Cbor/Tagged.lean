import DeviceTrust.Cbor.Entries
import DeviceTrust.Cbor.SetOrder
import DeviceTrust.Text.Rational

/-!
# Tags with a meaning

A tag may give its content a meaning of its own: a big integer, a point in time, a fraction, and so
on. Content that does not fit its tag makes the item malformed. An item whose tag has no meaning
here stays a tagged item.
-/

set_option autoImplicit false

namespace DeviceTrust.Cbor

/-- The tags with a meaning whose content may hold arrays that can change. -/
def looseTags : List Nat := [0, 1, 2, 3, 4, 5, 30, 35, 37, 100, 260, 1004, 43000]

/-- Whether arrays and maps inside a tag's content cannot change, wherever the tag stands: in an
unknown tag, in the tag that marks CBOR data, and among the elements of a set. -/
def freezesContent (number : Nat) : Bool := !looseTags.contains number

def pair? (v : Value) : Option (Value × Value) :=
  match v.items? with
  | some [a, b] => some (a, b)
  | _ => none

def integerPair? (v : Value) : Option (Int × Int) :=
  match pair? v with
  | some (.int a, .int b) => some (a, b)
  | _ => none

/-! ## Numbers -/

def rationalOf? : Value → Option Exact
  | .object (.fraction x) => some x
  | v => v.wholeNumber?.map Exact.ofInt

/-- The quotient of two rational numbers; with null below the line it is what stands above it,
which may then also be a floating-point or decimal number or a text. -/
def quotient? (above below : Value) : Option Exact :=
  match below, above with
  | .null, .text s => Text.rational? s
  | .null, .float x => Exact.ofBinary64? x
  | .null, .object (.decimal x) => some x.exact
  | .null, v => rationalOf? v
  | _, _ => do Exact.quotient? (← rationalOf? above) (← rationalOf? below)

/-- A number as a complex number with floating-point parts. Integers and fractions must not be too
great; a decimal number that is too great counts as infinite. -/
def complexOf? : Value → Option (Binary64 × Binary64)
  | .float x => some (x, ⟨0⟩)
  | .object (.complex re im) => some (re, im)
  | .object (.decimal x) =>
    let x := x.exact
    some (x.toBinary64?.getD (Binary64.infinity x.negative), ⟨0⟩)
  | v => do return (← (← rationalOf? v).toBinary64?, ⟨0⟩)

/-- The complex number whose real and imaginary part are given; each may be complex itself. -/
def complex? (re im : Value) : Option TaggedObject := do
  let (a, b) ← complexOf? re
  let (c, d) ← complexOf? im
  return .complex (a.plus d.negated) (c.plus b)

/-! ## Meanings -/

def object? (number : Nat) (content : Value) : Option TaggedObject :=
  match number, content with
  | 0, .text s => (Text.timestamp? s).map .moment
  | 1, .float x => (Text.momentOfFloat? x).map .moment
  | 1, v => (v.wholeNumber?.bind Text.momentOfSeconds?).map .moment
  | 4, v => do
    let (exponent, coefficient) ← integerPair? v
    return .decimal (← Decimal.written? coefficient exponent)
  | 5, v => do
    let (exponent, coefficient) ← integerPair? v
    return .decimal (← Decimal.scaledByTwo? coefficient exponent)
  | 30, v => do
    let (above, below) ← pair? v
    return .fraction (← quotient? above below)
  | 35, .text s =>
    if (Text.Pattern.text s).isWellFormed then some (.pattern (.text s)) else none
  | 35, .bytes b =>
    if (Text.Pattern.bytes b).isWellFormed then some (.pattern (.bytes b)) else none
  | 37, .bytes b => if b.length = 16 then some (.identifier b) else none
  | 100, v => do
    let day ← v.wholeNumber?
    if Text.isEpochDay day then some (.date day) else none
  | 260, .bytes b => if b.length = 4 || b.length = 16 then some (.address b) else none
  | 1004, .text s => (Text.date? s).map .date
  | 43000, v => do
    let (re, im) ← pair? v
    complex? re im
  | _, _ => none

/-- What a tagged item means; none if the content does not fit the tag. -/
def interpret? (frozen : Bool) (number : Nat) (content : Value) : Option Value :=
  match number with
  | 2 => content.byteString?.map fun b => .int (Bytes.toNatBE b)
  | 3 => content.byteString?.map fun b => .int (Int.negSucc (Bytes.toNatBE b))
  | 258 => content.items?.map fun items => .set frozen (SetOrder.arrange items)
  | 260 =>
    -- six bytes are an address of another sort, which has no meaning here
    if content.byteString?.any fun b => b.length == 6 then some (.tag 260 content)
    else (object? 260 content).map .object
  | 55799 => some content
  | n => if looseTags.contains n then (object? n content).map .object else some (.tag n content)

end DeviceTrust.Cbor
