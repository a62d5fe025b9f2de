import DeviceTrust.Text.CharacterName
import DeviceTrust.Text.Integer
import DeviceTrust.Text.Pattern.Reading

/-!
# Escapes and sets

What a backslash means in a regular expression, inside and outside a set of characters: a class of
characters, a position, a character by its number or its name, or the text of an earlier group. A
letter without a meaning is refused, any other character means itself.
-/

set_option autoImplicit false

namespace DeviceTrust.Text.Pattern

/-- What can stand in a set: a character, by its number, or a class of characters. -/
inductive Member where
  | character (number : Nat)
  | category
  deriving DecidableEq, Repr

/-- The kinds of items, as far as a repetition has to know them: neither a position nor a
repetition can be repeated. -/
inductive ItemKind where
  | position | repetition | other
  deriving DecidableEq, Repr

structure Item where
  kind : ItemKind
  width : Width

def Item.single : Item := ⟨.other, .one⟩

/-! ## Characters by number -/

def isOctal (c : Char) : Bool := '0' ≤ c && c ≤ '7'

def isHexadecimal (c : Char) : Bool :=
  c.isDigit || ('a' ≤ c && c ≤ 'f') || ('A' ≤ c && c ≤ 'F')

def digitValue (c : Char) : Nat :=
  if c.isDigit then c.toNat - 48 else if c.toNat < 97 then c.toNat - 55 else c.toNat - 87

def numberOf (base : Nat) (digits : List Char) : Nat :=
  digits.foldl (fun n c => base * n + digitValue c) 0

/-- The greatest number of a character in base eight. -/
def greatestOctal : Nat := 255

/-- A character by exactly `count` digits in base sixteen. -/
def hexadecimal (count : Nat) : Step Nat := do
  let digits ← Step.takeWhile isHexadecimal count
  Step.require (digits.length == count && decide (numberOf 16 digits ≤ 0x10ffff))
  return numberOf 16 digits

/-- A character by its name in braces. -/
def named : Step Nat := do
  Step.take '\x7b'
  match characterNamed? (← Step.takeUntil '\x7d') with
  | some number => return number
  | none => Step.malformed

/-- A character by the letters `x`, `u`, `U` or `N` and what follows; the last three only where
text is matched. -/
def numbered? (c : Char) : Option (Step Nat) :=
  let inText (step : Step Nat) : Step Nat := do
    Step.require (← get).isText
    step
  match c with
  | 'x' => some (hexadecimal 2)
  | 'u' => some (inText (hexadecimal 4))
  | 'U' => some (inText (hexadecimal 8))
  | 'N' => some (inText named)
  | _ => none

/-! ## Letters -/

/-- The characters that letters stand for, inside and outside a set. -/
def controls : List (Char × Nat) :=
  [('a', 7), ('f', 12), ('n', 10), ('r', 13), ('t', 9), ('v', 11), ('\\', 92)]

/-- The letters of classes of characters. -/
def categories : List Char := ['d', 'D', 's', 'S', 'w', 'W']

/-- The letters of positions. -/
def positions : List Char := ['A', 'b', 'B', 'Z']

/-- What a backslash and a character stand for in a set. -/
def memberEscape (c : Char) : Step Member := do
  if c = 'b' then return .character 8
  else if categories.contains c then return .category
  else match controls.lookup c, numbered? c with
    | some number, _ => return .character number
    | _, some step => return .character (← step)
    | _, _ =>
      if isOctal c then
        let number := numberOf 8 (c :: (← Step.takeWhile isOctal 2))
        Step.require (number ≤ greatestOctal)
        return .character number
      else
        Step.require (!c.isAlphanum)
        return .character c.toNat

/-- What a backslash and a digit other than zero stand for: three digits in base eight a character,
one or two digits in base ten a group. -/
def digitEscape (c : Char) : Step Item := do
  match ← Step.takeWhile Char.isDigit 1 with
  | [d] =>
    let third ← if isOctal c && isOctal d then Step.takeWhile isOctal 1 else pure []
    if third.isEmpty then return ⟨.other, ← Step.reference (numberOf 10 [c, d])⟩
    else
      Step.require (numberOf 8 (c :: d :: third) ≤ greatestOctal)
      return .single
  | _ => return ⟨.other, ← Step.reference (digitValue c)⟩

def itemEscape (c : Char) : Step Item := do
  if positions.contains c then return ⟨.position, .zero⟩
  else if categories.contains c || (controls.lookup c).isSome then return .single
  else match numbered? c with
    | some step =>
      let _ ← step
      return .single
    | none =>
      if c = '0' then
        let _ ← Step.takeWhile isOctal 2
        return .single
      else if c.isDigit then digitEscape c
      else
        Step.require (!c.isAlpha)
        return .single

/-! ## Sets -/

def member : Token → Step Member
  | .plain c => pure (.character c.toNat)
  | .escaped c => memberEscape c

/-- Reads the members of a set and the bracket that ends it, with at most `fuel` steps. A bracket
in the first place is a member, and so is a dash in the last. The ends of a range are characters in
order. -/
def setMembers : (fuel : Nat) → (first : Bool) → Step Unit
  | 0, _ => Step.malformed
  | fuel + 1, first => do
    let t ← Step.next
    if t = .plain ']' && !first then return ()
    else
      let low ← member t
      if ← Step.take? '-' then
        let t ← Step.next
        if t = .plain ']' then return ()
        else
          match low, ← member t with
          | .character a, .character b =>
            Step.require (a ≤ b)
            setMembers fuel false
          | _, _ => Step.malformed
      else setMembers fuel false

/-- Reads a set after its opening bracket. -/
def characterSet : Step Item := do
  let _ ← Step.take? '^'
  setMembers ((← get).rest.length + 1) true
  return .single

end DeviceTrust.Text.Pattern
