import DeviceTrust.Cbor.Same
import DeviceTrust.Curve.Modular

/-!
# The order of sets

A set has no duplicates, and of elements that agree the first one stays. A set of whole numbers
shows its elements in the order of their slots in a table. A number's code says in which slot to
look first, then in which of its neighbours, then further and further away; a table that is three
fifths full makes place for four times its elements. A set that holds anything but whole numbers
shows its elements in the order in which they came.
-/

set_option autoImplicit false

namespace DeviceTrust

/-- The exact number that a value is, if it is an integer in any spelling. -/
def Value.integral? : Value → Option Exact
  | .float x => (Exact.ofBinary64? x).filter Exact.isInteger
  | .object o => o.real?.filter Exact.isInteger
  | .simple code => some (.ofInt code.toNat)
  | v => v.wholeNumber?.map Exact.ofInt

namespace SetOrder

/-! ## Slots -/

def codeModulus : Nat := 0x1fffffffffffffff

/-- The code of an integer, below `2 ^ 64`: its magnitude modulo a prime, a negative one counted
from the end. The last code of all is never used. -/
def code (x : Exact) : Nat :=
  let twos := Modular.pow codeModulus 2 x.twos.toNat
  let fives := Modular.pow codeModulus 5 x.fives.toNat
  let m := x.numerator * twos * fives % codeModulus
  if !x.negative || m = 0 then m else 0x10000000000000000 - max 2 m

/-- How many neighbours of a slot are looked at. -/
def reach : Nat := 9

/-- The first free slot from slot `i` on: the slot and its neighbours, if all of them lie within the
table, and else the next slot that the code leads to. -/
def search (taken : Nat → Bool) (size : Nat) : (fuel : Nat) → (i code : Nat) → Nat
  | 0, i, _ => i
  | fuel + 1, i, code =>
    let near := if i + reach < size then reach + 1 else 1
    match (List.range near).find? fun j => !taken (i + j) with
    | some j => i + j
    | none => search taken size fuel ((5 * i + 1 + code / 32) % size) (code / 32)

structure Slot where
  position : Nat
  code : Nat
  element : Value

/-- A table with a number of slots, a power of two, and what stands in them. -/
structure Table where
  size : Nat
  slots : List Slot

namespace Table

def leastSize : Nat := 8

def empty (count : Nat) : Table := ⟨max leastSize (1 <<< (count.log2 + 1)), []⟩

/-- The table with one more element, in the first free slot for its code. -/
def put (t : Table) (code : Nat) (x : Value) : Table :=
  let taken (i : Nat) : Bool := t.slots.any fun s => s.position == i
  { t with slots := t.slots ++ [⟨search taken t.size (t.size + 64) (code % t.size) code, code, x⟩] }

def inOrder (t : Table) : List Slot := t.slots.mergeSort fun a b => decide (a.position ≤ b.position)

def grown (t : Table) : Table :=
  t.inOrder.foldl (fun u s => u.put s.code s.element) (empty (4 * t.slots.length))

/-- The table with one more element, grown if three fifths of it are full. -/
def add (t : Table) (code : Nat) (x : Value) : Table :=
  let t := t.put code x
  if 5 * t.slots.length < 3 * (t.size - 1) then t else t.grown

end Table

/-- Whole numbers, with their codes, in the order of their slots. -/
def slotOrder (coded : List (Nat × Value)) : List Value :=
  (coded.foldl (fun (t : Table) p => t.add p.1 p.2) (Table.empty 0)).inOrder.map Slot.element

/-! ## Elements -/

/-- Elements without those that agree with an earlier one. -/
def distinct (elements : List Value) : List Value :=
  elements.foldl (fun found x => if found.any x.agrees then found else found ++ [x]) []

def arrange (elements : List Value) : List Value :=
  let found := distinct elements
  match found.mapM fun x => x.integral?.map fun number => (code number, x) with
  | some coded => slotOrder coded
  | none => found

end SetOrder

end DeviceTrust
