import DeviceTrust.Number.Exact
import DeviceTrust.Text.Integer

/-!
# Rational numbers written as text

A rational number as a person may write it: a whole number, a quotient of two, or a decimal number
with or without an exponent. Blanks may stand around it and single underscores between digits.
-/

set_option autoImplicit false

namespace DeviceTrust.Text

/-- The blanks that may stand around a rational number: those around a whole number, and the four
separators of data. -/
def isRationalBlank (c : Char) : Bool := isBlank c || (0x1c ≤ c.toNat && c.toNat ≤ 0x1f)

/-- The values of the digits at the start of a text, with single underscores between them, and what
follows them. -/
def leadingDigits : List Char → List Nat × List Char
  | [] => ([], [])
  | c :: '_' :: d :: rest =>
    match decimalValue? c with
    | none => ([], c :: '_' :: d :: rest)
    | some v =>
      if (decimalValue? d).isSome then
        let (values, rest) := leadingDigits (d :: rest)
        (v :: values, rest)
      else ([v], '_' :: d :: rest)
  | c :: rest =>
    match decimalValue? c with
    | none => ([], c :: rest)
    | some v =>
      let (values, rest) := leadingDigits rest
      (v :: values, rest)

/-- The number with some digits, unless there are too many of them. -/
def boundedNumber? (digits : List Nat) : Option Nat :=
  if digits.length > digitLimit then none else some (ofDigits digits)

/-- The digits of an exponent at the start of a text: an optional sign and at least one digit. -/
def exponent? (s : List Char) : Option (Int × List Char) := do
  let (negative, s) := match s with
    | '-' :: rest => (true, rest)
    | '+' :: rest => (false, rest)
    | rest => (false, rest)
  let (digits, rest) := leadingDigits s
  if digits.isEmpty then none
  let n ← boundedNumber? digits
  return (Binary64.signed negative n, rest)

/-- The decimal number with the given digits before the point, from the rest of its text. -/
def decimalRational? (negative : Bool) (whole : List Nat) (s : List Char) : Option Exact := do
  let (decimals, s) := match s with
    | '.' :: rest => leadingDigits rest
    | rest => ([], rest)
  if whole.isEmpty && decimals.isEmpty then none
  let (exponent, s) ← match s with
    | 'e' :: rest | 'E' :: rest => exponent? rest
    | rest => some (0, rest)
  if !s.isEmpty then none
  let _ ← boundedNumber? whole
  let _ ← boundedNumber? decimals
  return .ofDecimal (Binary64.signed negative (ofDigits (whole ++ decimals)))
    (exponent - decimals.length)

def rational? (s : String) : Option Exact := do
  let s := s.toList.dropWhile isRationalBlank
  let s := (s.reverse.dropWhile isRationalBlank).reverse
  let (negative, s) := match s with
    | '-' :: rest => (true, rest)
    | '+' :: rest => (false, rest)
    | rest => (false, rest)
  let (whole, s) := leadingDigits s
  match s with
  | '/' :: rest =>
    if whole.isEmpty then none
    let (digits, rest) := leadingDigits rest
    if digits.isEmpty || !rest.isEmpty then none
    let n ← boundedNumber? whole
    let d ← boundedNumber? digits
    Exact.quotient? (.ofInt (Binary64.signed negative n)) (.ofInt d)
  | s => decimalRational? negative whole s

end DeviceTrust.Text
