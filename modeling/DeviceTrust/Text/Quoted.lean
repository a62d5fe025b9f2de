import DeviceTrust.Bytes
import DeviceTrust.Text.Printable

/-!
# Quoted text and bytes

How messages show a text or a byte string: in single quotes, or in double quotes when it holds a
single quote and no double one, with escapes for what cannot be shown.
-/

set_option autoImplicit false

namespace DeviceTrust.Text

def quoteFor (cs : List Char) : Char :=
  if cs.contains '\'' && !cs.contains '"' then '"' else '\''

/-- The lowest `width` hexadecimal digits of a number. -/
def hexNumber (width n : Nat) : List Char :=
  (List.range width).reverse.map fun i => Bytes.hexDigit ((n >>> (4 * i)) % 16)

/-- One ASCII character inside quotes, or nothing if it has no short escape and is not shown. -/
def asciiShown? (quote c : Char) : Option (List Char) :=
  if c = '\\' || c = quote then some ['\\', c]
  else if c = '\t' then some ['\\', 't']
  else if c = '\n' then some ['\\', 'n']
  else if c = '\r' then some ['\\', 'r']
  else if 0x20 ≤ c.toNat && c.toNat < 0x7f then some [c]
  else none

def shown (quote c : Char) : List Char :=
  match asciiShown? quote c with
  | some cs => cs
  | none =>
    if isPrintable c then [c]
    else if c.toNat < 0x100 then '\\' :: 'x' :: hexNumber 2 c.toNat
    else if c.toNat < 0x10000 then '\\' :: 'u' :: hexNumber 4 c.toNat
    else '\\' :: 'U' :: hexNumber 8 c.toNat

def quoted (s : String) : String :=
  let quote := quoteFor s.toList
  String.ofList (quote :: s.toList.flatMap (shown quote) ++ [quote])

def shownByte (quote : Char) (x : UInt8) : List Char :=
  match asciiShown? quote (Char.ofNat x.toNat) with
  | some cs => cs
  | none => '\\' :: 'x' :: hexNumber 2 x.toNat

/-- A byte string in quotes, marked by a letter in front. -/
def quotedBytes (b : Bytes) : String :=
  let quote := quoteFor (b.map fun x => Char.ofNat x.toNat)
  String.ofList ('b' :: quote :: b.flatMap (shownByte quote) ++ [quote])

/-- One byte of a byte string that can be overwritten. A single quote is escaped whichever quote
stands around it. -/
def shownBufferByte (quote : Char) (x : UInt8) : List Char :=
  if x = 0x27 then ['\\', '\''] else shownByte quote x

/-- A byte string that can be overwritten, in quotes, marked by a letter in front. -/
def quotedBuffer (b : Bytes) : String :=
  let quote := quoteFor (b.map fun x => Char.ofNat x.toNat)
  String.ofList ('b' :: quote :: b.flatMap (shownBufferByte quote) ++ [quote])

end DeviceTrust.Text
