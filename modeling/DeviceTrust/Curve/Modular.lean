/-!
# Arithmetic modulo a prime

Sums, differences, products, powers and inverses of residues. A residue is a natural number below
the modulus; every operation reduces its result.
-/

set_option autoImplicit false

namespace DeviceTrust.Modular

def add (m a b : Nat) : Nat := (a + b) % m

def sub (m a b : Nat) : Nat := (a + (m - b % m)) % m

def mul (m a b : Nat) : Nat := (a * b) % m

/-- The lowest `width` bits of a number, the most significant first. -/
def bits : (width : Nat) → Nat → List Bool
  | 0, _ => []
  | width + 1, n => n.testBit width :: bits width n

/-- The bits of a number without leading zeros, the most significant first. -/
def allBits (n : Nat) : List Bool := bits (n.log2 + 1) n

/-- A power: one squaring per bit of the exponent, and a product where the bit is set. -/
def pow (m base exponent : Nat) : Nat :=
  (allBits exponent).foldl
    (fun acc bit =>
      let square := mul m acc acc
      if bit then mul m square base else square)
    (1 % m)

/-- The inverse modulo a prime, by Fermat; zero for zero. -/
def inv (p a : Nat) : Nat := pow p a (p - 2)

end DeviceTrust.Modular
