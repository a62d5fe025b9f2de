/-!
# Letter case

The upper-case and lower-case forms that lie in ASCII. A character without such a form is left as
it is, so a text made of ASCII letters is recognised in any spelling that has it as its upper-case
or lower-case form, and in no other.
-/

set_option autoImplicit false

namespace DeviceTrust.Text

/-- The characters beyond ASCII whose upper-case form is one or more ASCII letters. -/
def upperForms : List (Nat × String) := [
  (0xdf, "SS"), (0x131, "I"), (0x17f, "S"), (0xfb00, "FF"), (0xfb01, "FI"), (0xfb02, "FL"),
  (0xfb03, "FFI"), (0xfb04, "FFL"), (0xfb05, "ST"), (0xfb06, "ST")
]

/-- The upper-case form of a character, if it lies in ASCII; otherwise the character. -/
def upperChar (c : Char) : List Char :=
  if c.toNat < 0x80 then [c.toUpper]
  else match upperForms.lookup c.toNat with
    | some s => s.toList
    | none => [c]

def upper (s : String) : String := String.ofList (s.toList.flatMap upperChar)

/-- The lower-case form of a character, if it lies in ASCII; otherwise the character. The Kelvin
sign is the only character beyond ASCII with such a form. -/
def lowerChar (c : Char) : Char :=
  if c.toNat = 0x212a then 'k' else c.toLower

def lower (s : String) : String := s.map lowerChar

end DeviceTrust.Text
