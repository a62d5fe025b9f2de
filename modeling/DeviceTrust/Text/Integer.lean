import DeviceTrust.Text.Digit

/-!
# Integers written as text

A whole number in base ten, as a person may write it: blanks around it, a sign, digits of any
script, and single underscores between digits.
-/

set_option autoImplicit false

namespace DeviceTrust.Text

/-- The blanks that may stand around a number. -/
def isBlank (c : Char) : Bool :=
  let n := c.toNat
  (9 ≤ n && n ≤ 13) || n == 0x20 || n == 0x85 || n == 0xa0 || n == 0x1680
    || (0x2000 ≤ n && n ≤ 0x200a) || n == 0x2028 || n == 0x2029 || n == 0x202f || n == 0x205f
    || n == 0x3000

def strip (s : List Char) : List Char :=
  ((s.dropWhile isBlank).reverse.dropWhile isBlank).reverse

/-- The values of digits with single underscores between them, at least one digit. -/
def digits? : List Char → Option (List Nat)
  | [] => none
  | [c] => (decimalValue? c).map ([·])
  | c :: d :: r => do
    let v ← decimalValue? c
    let rest ← if d = '_' then digits? r else digits? (d :: r)
    return v :: rest

/-- The most digits a number may be written with. -/
def digitLimit : Nat := 4300

def ofDigits (ds : List Nat) : Nat := ds.foldl (fun n d => 10 * n + d) 0

/-- How reading a number can end without one. -/
inductive IntegerFault where
  | malformed
  | tooLong
  deriving DecidableEq, Repr

/-- Reads digits as a number, unless there are too many. -/
def natural (s : List Char) : Except IntegerFault Nat :=
  match digits? s with
  | none => .error .malformed
  | some ds => if ds.length > digitLimit then .error .tooLong else .ok (ofDigits ds)

def integer (s : List Char) : Except IntegerFault Int :=
  match strip s with
  | '-' :: r => (natural r).map fun n => -(n : Int)
  | '+' :: r => (natural r).map fun n => (n : Int)
  | r => (natural r).map fun n => (n : Int)

end DeviceTrust.Text
