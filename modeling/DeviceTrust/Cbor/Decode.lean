import DeviceTrust.Cbor.Entries
import DeviceTrust.Cbor.Tagged

/-!
# Reading CBOR

Reads one item from the front of a byte string and ignores what follows. Heads need not be the
shortest; strings, arrays and maps may be of indefinite length. Arrays, maps and tags nest at most
400 deep, where an array or map that declares no elements does not count. Inside a map key, and
inside the content of some tags, arrays become tuples and maps become frozen.

A reader takes the bytes and gives the value with the bytes that follow it, or nothing if the bytes
do not start with a well-formed item.
-/

set_option autoImplicit false

namespace DeviceTrust.Cbor

/-- Reads an item; the flag says whether it stands where arrays and maps are frozen. -/
abbrev Reader := (frozen : Bool) → Bytes → Option (Value × Bytes)

def takeBytes (n : Nat) (b : Bytes) : Option (Bytes × Bytes) :=
  if b.length < n then none else some (b.take n, b.drop n)

/-- The argument of a head, given the lower five bits of its first byte. -/
def argument (info : Nat) (b : Bytes) : Option (Nat × Bytes) :=
  if info < 24 then some (info, b)
  else if info < 28 then
    (takeBytes (1 <<< (info - 24)) b).map fun (digits, rest) => (Bytes.toNatBE digits, rest)
  else none

/-! ## Strings -/

def textOf? (b : Bytes) : Option String := String.fromUTF8? ⟨b.toArray⟩

/-- Reads a string of definite length, after its head's first byte. -/
def readDefinite (info : Nat) (b : Bytes) : Option (Bytes × Bytes) := do
  let (n, rest) ← argument info b
  takeBytes n rest

/-- Reads the chunks of a string of indefinite length up to the break. Every chunk is a string of
definite length and of the same major type. At most `fuel` chunks are read. -/
def readChunks (major : Nat) : (fuel : Nat) → Bytes → Option (List Bytes × Bytes)
  | 0, _ => none
  | _ + 1, [] => none
  | fuel + 1, first :: rest =>
    if first = 0xff then some ([], rest)
    else if first.toNat / 32 ≠ major then none
    else do
      let (chunk, rest) ← readDefinite (first.toNat % 32) rest
      let (chunks, rest) ← readChunks major fuel rest
      return (chunk :: chunks, rest)

def readString (major info : Nat) (b : Bytes) : Option (List Bytes × Bytes) :=
  if info = 31 then readChunks major (b.length + 1) b
  else (readDefinite info b).map fun (s, rest) => ([s], rest)

/-! ## Simple values and floating-point numbers -/

def simpleOf (code : Nat) : Value :=
  if code = 20 then .bool false
  else if code = 21 then .bool true
  else if code = 22 then .null
  else if code = 23 then .undefined
  else .simple (UInt8.ofNat code)

/-- A floating-point number as a value; the payload of a not-a-number is not kept. -/
def floatOf (x : Binary64) : Value := .float x.withoutPayload

/-- Reads an item of major type 7, after its head's first byte. -/
def readSimple (info : Nat) (b : Bytes) : Option (Value × Bytes) :=
  if info < 24 then some (simpleOf info, b)
  else if info = 24 then do
    let (code, rest) ← takeBytes 1 b
    let n := Bytes.toNatBE code
    if n < 32 then none else some (simpleOf n, rest)
  else if info = 25 then
    (takeBytes 2 b).map fun (x, rest) => (floatOf (.ofHalf (Bytes.toNatBE x)), rest)
  else if info = 26 then
    (takeBytes 4 b).map fun (x, rest) => (floatOf (.ofSingle (Bytes.toNatBE x)), rest)
  else if info = 27 then
    (takeBytes 8 b).map fun (x, rest) => (floatOf ⟨UInt64.ofNat (Bytes.toNatBE x)⟩, rest)
  else none

/-! ## Arrays and maps -/

def readItems (item : Bytes → Option (Value × Bytes)) :
    (count : Nat) → Bytes → Option (List Value × Bytes)
  | 0, b => some ([], b)
  | count + 1, b => do
    let (x, rest) ← item b
    let (xs, rest) ← readItems item count rest
    return (x :: xs, rest)

/-- Reads items up to the break, at most `fuel` of them. -/
def readItemsToBreak (item : Bytes → Option (Value × Bytes)) :
    (fuel : Nat) → Bytes → Option (List Value × Bytes)
  | 0, _ => none
  | fuel + 1, b =>
    match b with
    | 0xff :: rest => some ([], rest)
    | _ => do
      let (x, rest) ← item b
      let (xs, rest) ← readItemsToBreak item fuel rest
      return (x :: xs, rest)

/-- Reads an entry: a label, which is frozen, and its content. -/
def readEntry (item : Reader) (frozen : Bool) (b : Bytes) : Option ((Value × Value) × Bytes) := do
  let (k, rest) ← item true b
  let (v, rest) ← item frozen rest
  return ((k, v), rest)

def readEntries (entry : Bytes → Option ((Value × Value) × Bytes)) :
    (count : Nat) → Bytes → Option (List (Value × Value) × Bytes)
  | 0, b => some ([], b)
  | count + 1, b => do
    let (e, rest) ← entry b
    let (es, rest) ← readEntries entry count rest
    return (e :: es, rest)

/-- Reads entries up to a break in the place of a label, at most `fuel` of them. -/
def readEntriesToBreak (entry : Bytes → Option ((Value × Value) × Bytes)) :
    (fuel : Nat) → Bytes → Option (List (Value × Value) × Bytes)
  | 0, _ => none
  | fuel + 1, b =>
    match b with
    | 0xff :: rest => some ([], rest)
    | _ => do
      let (e, rest) ← entry b
      let (es, rest) ← readEntriesToBreak entry fuel rest
      return (e :: es, rest)

/-- Reads the items of an array. More items than bytes are left cannot be there. -/
def readArray (item : Bytes → Option (Value × Bytes)) (info : Nat) (b : Bytes) :
    Option (List Value × Bytes) :=
  if info = 31 then readItemsToBreak item (b.length + 1) b
  else do
    let (n, rest) ← argument info b
    if rest.length < n then none else readItems item n rest

def readMap (entry : Bytes → Option ((Value × Value) × Bytes)) (info : Nat) (b : Bytes) :
    Option (List (Value × Value) × Bytes) :=
  if info = 31 then readEntriesToBreak entry (b.length + 1) b
  else do
    let (n, rest) ← argument info b
    if rest.length < n then none else readEntries entry n rest

/-- What follows the head of an array or map that declares no elements. -/
def afterNone? (info : Nat) (b : Bytes) : Option Bytes :=
  match argument info b with
  | some (0, rest) => some rest
  | _ => none

/-! ## Items -/

/-- Reads an item; `inner` reads what is nested in it and is absent at the greatest depth. -/
def readItem (inner : Option Reader) (frozen : Bool) (b : Bytes) : Option (Value × Bytes) :=
  match b with
  | [] => none
  | first :: rest =>
    let info := first.toNat % 32
    match first.toNat / 32 with
    | 0 => (argument info rest).map fun (n, rest) => (.int n, rest)
    | 1 => (argument info rest).map fun (n, rest) => (.int (Int.negSucc n), rest)
    | 2 => (readString 2 info rest).map fun (chunks, rest) => (.bytes chunks.flatten, rest)
    | 3 => do
      let (chunks, rest) ← readString 3 info rest
      let texts ← chunks.mapM textOf?
      return (.text (String.join texts), rest)
    | 4 => do
      let (items, rest) ← match afterNone? info rest with
        | some rest => some ([], rest)
        | none => inner.bind fun item => readArray (item frozen) info rest
      return (if frozen then .tuple items else .list items, rest)
    | 5 => do
      let (entries, rest) ← match afterNone? info rest with
        | some rest => some ([], rest)
        | none => inner.bind fun item => readMap (readEntry item frozen) info rest
      return (.map (if frozen then .frozen else .plain) (Entries.ofList entries), rest)
    | 6 => do
      let item ← inner
      let (number, rest) ← argument info rest
      let (content, rest) ← item (frozen || freezesContent number) rest
      let meaning ← interpret? frozen number content
      return (meaning, rest)
    | _ => readSimple info rest

def depthLimit : Nat := 400

/-- Reads an item in which at most `depth` arrays, maps and tags are nested. -/
def read : (depth : Nat) → Reader
  | 0 => readItem none
  | depth + 1 => readItem (some (read depth))

/-- The value at the front of a byte string; what follows it is ignored. -/
def decode? (b : Bytes) : Option Value := (read depthLimit false b).map (·.1)

end DeviceTrust.Cbor
