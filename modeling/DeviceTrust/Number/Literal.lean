import DeviceTrust.Number.Shortest

/-!
# Floating-point numbers as text

Messages show the shortest decimal that reads back: positionally in a middle range, with one digit
before the point and an exponent outside it.
-/

set_option autoImplicit false

namespace DeviceTrust

/-- Where positional notation ends, and how wide an exponent is at least. The point of a number
`0.d₁d₂… * 10 ^ p` stands at `p`. -/
structure DecimalStyle where
  leastPoint : Int
  greatestPoint : Int
  exponentWidth : Nat

/-- Numbers from `0.0001` up to, and without, `10 ^ 16` are positional; an exponent has two
digits or more. -/
def messageStyle : DecimalStyle := ⟨-3, 16, 2⟩

namespace DecimalStyle

/-- The decimal digits of a number, zeros in front up to a width. -/
def paddedDigits (width n : Nat) : List Char :=
  let ds := Nat.toDigits 10 n
  List.replicate (width - ds.length) '0' ++ ds

def positional (ds : List Char) (point : Int) : List Char :=
  let zeros (n : Int) := List.replicate n.toNat '0'
  if point ≤ 0 then '0' :: '.' :: zeros (-point) ++ ds
  else if ds.length ≤ point.toNat then ds ++ zeros (point - ds.length) ++ ['.', '0']
  else ds.take point.toNat ++ '.' :: ds.drop point.toNat

def scientific (style : DecimalStyle) (ds : List Char) (exponent : Int) : List Char :=
  let mantissa := match ds with
    | d :: e :: rest => d :: '.' :: e :: rest
    | _ => ds
  mantissa ++ 'e' :: (if exponent < 0 then '-' else '+')
    :: paddedDigits style.exponentWidth exponent.natAbs

/-- The text of the positive decimal `n * 10 ^ e`. -/
def render (style : DecimalStyle) (n : Nat) (e : Int) : List Char :=
  let ds := Nat.toDigits 10 n
  let point := ds.length + e
  if style.leastPoint ≤ point && point ≤ style.greatestPoint then positional ds point
  else style.scientific ds (point - 1)

end DecimalStyle

def Binary64.literal (x : Binary64) : String :=
  let sign (negative : Bool) : List Char := if negative then ['-'] else []
  match x.meaning with
  | .notANumber => "nan"
  | .infinite negative => String.ofList (sign negative ++ ['i', 'n', 'f'])
  | .finite negative 0 _ => String.ofList (sign negative ++ ['0', '.', '0'])
  | .finite negative m q =>
    let (n, e) := Shortest.decimal m q
    String.ofList (sign negative ++ messageStyle.render n e)

end DeviceTrust
