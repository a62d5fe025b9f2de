import DeviceTrust.Bytes

/-!
# The AES block cipher

Encryption of one block of sixteen bytes under a key of 16, 24 or 32 bytes. Decryption of a block
is not needed: counter mode only ever encrypts.
-/

set_option autoImplicit false

namespace DeviceTrust.Aes

/-- The substitution of the standard: the inverse in GF(2^8), then an affine map. -/
def substitution : Array UInt8 := #[
  0x63, 0x7c, 0x77, 0x7b, 0xf2, 0x6b, 0x6f, 0xc5, 0x30, 0x01, 0x67, 0x2b, 0xfe, 0xd7, 0xab, 0x76,
  0xca, 0x82, 0xc9, 0x7d, 0xfa, 0x59, 0x47, 0xf0, 0xad, 0xd4, 0xa2, 0xaf, 0x9c, 0xa4, 0x72, 0xc0,
  0xb7, 0xfd, 0x93, 0x26, 0x36, 0x3f, 0xf7, 0xcc, 0x34, 0xa5, 0xe5, 0xf1, 0x71, 0xd8, 0x31, 0x15,
  0x04, 0xc7, 0x23, 0xc3, 0x18, 0x96, 0x05, 0x9a, 0x07, 0x12, 0x80, 0xe2, 0xeb, 0x27, 0xb2, 0x75,
  0x09, 0x83, 0x2c, 0x1a, 0x1b, 0x6e, 0x5a, 0xa0, 0x52, 0x3b, 0xd6, 0xb3, 0x29, 0xe3, 0x2f, 0x84,
  0x53, 0xd1, 0x00, 0xed, 0x20, 0xfc, 0xb1, 0x5b, 0x6a, 0xcb, 0xbe, 0x39, 0x4a, 0x4c, 0x58, 0xcf,
  0xd0, 0xef, 0xaa, 0xfb, 0x43, 0x4d, 0x33, 0x85, 0x45, 0xf9, 0x02, 0x7f, 0x50, 0x3c, 0x9f, 0xa8,
  0x51, 0xa3, 0x40, 0x8f, 0x92, 0x9d, 0x38, 0xf5, 0xbc, 0xb6, 0xda, 0x21, 0x10, 0xff, 0xf3, 0xd2,
  0xcd, 0x0c, 0x13, 0xec, 0x5f, 0x97, 0x44, 0x17, 0xc4, 0xa7, 0x7e, 0x3d, 0x64, 0x5d, 0x19, 0x73,
  0x60, 0x81, 0x4f, 0xdc, 0x22, 0x2a, 0x90, 0x88, 0x46, 0xee, 0xb8, 0x14, 0xde, 0x5e, 0x0b, 0xdb,
  0xe0, 0x32, 0x3a, 0x0a, 0x49, 0x06, 0x24, 0x5c, 0xc2, 0xd3, 0xac, 0x62, 0x91, 0x95, 0xe4, 0x79,
  0xe7, 0xc8, 0x37, 0x6d, 0x8d, 0xd5, 0x4e, 0xa9, 0x6c, 0x56, 0xf4, 0xea, 0x65, 0x7a, 0xae, 0x08,
  0xba, 0x78, 0x25, 0x2e, 0x1c, 0xa6, 0xb4, 0xc6, 0xe8, 0xdd, 0x74, 0x1f, 0x4b, 0xbd, 0x8b, 0x8a,
  0x70, 0x3e, 0xb5, 0x66, 0x48, 0x03, 0xf6, 0x0e, 0x61, 0x35, 0x57, 0xb9, 0x86, 0xc1, 0x1d, 0x9e,
  0xe1, 0xf8, 0x98, 0x11, 0x69, 0xd9, 0x8e, 0x94, 0x9b, 0x1e, 0x87, 0xe9, 0xce, 0x55, 0x28, 0xdf,
  0x8c, 0xa1, 0x89, 0x0d, 0xbf, 0xe6, 0x42, 0x68, 0x41, 0x99, 0x2d, 0x0f, 0xb0, 0x54, 0xbb, 0x16
]

def sub (x : UInt8) : UInt8 := substitution.getD x.toNat 0

/-- Four bytes: a column of the state, or a word of the key schedule. -/
structure Column where
  r0 : UInt8
  r1 : UInt8
  r2 : UInt8
  r3 : UInt8

/-- The sixteen bytes of a block, column by column. -/
structure Block where
  c0 : Column
  c1 : Column
  c2 : Column
  c3 : Column

namespace Column

/-- The first four bytes of a string; missing ones are zero. -/
def ofBytes (b : Bytes) : Column := ⟨b.getD 0 0, b.getD 1 0, b.getD 2 0, b.getD 3 0⟩

def toBytes (c : Column) : Bytes := [c.r0, c.r1, c.r2, c.r3]

def add (a b : Column) : Column := ⟨a.r0 ^^^ b.r0, a.r1 ^^^ b.r1, a.r2 ^^^ b.r2, a.r3 ^^^ b.r3⟩

def substitute (c : Column) : Column := ⟨sub c.r0, sub c.r1, sub c.r2, sub c.r3⟩

/-- The bytes moved up by one place, the first one to the end. -/
def rotate (c : Column) : Column := ⟨c.r1, c.r2, c.r3, c.r0⟩

def double (x : UInt8) : UInt8 := (x <<< 1) ^^^ (if x ≥ 0x80 then 0x1b else 0)

def triple (x : UInt8) : UInt8 := double x ^^^ x

/-- The column times the fixed polynomial of the standard. -/
def mix (c : Column) : Column :=
  ⟨double c.r0 ^^^ triple c.r1 ^^^ c.r2 ^^^ c.r3,
   c.r0 ^^^ double c.r1 ^^^ triple c.r2 ^^^ c.r3,
   c.r0 ^^^ c.r1 ^^^ double c.r2 ^^^ triple c.r3,
   triple c.r0 ^^^ c.r1 ^^^ c.r2 ^^^ double c.r3⟩

end Column

namespace Block

def ofBytes (b : Bytes) : Block :=
  ⟨.ofBytes b, .ofBytes (b.drop 4), .ofBytes (b.drop 8), .ofBytes (b.drop 12)⟩

def toBytes (b : Block) : Bytes := b.c0.toBytes ++ b.c1.toBytes ++ b.c2.toBytes ++ b.c3.toBytes

@[simp] theorem length_toBytes (b : Block) : b.toBytes.length = 16 := rfl

/-- Byte-wise exclusive or: how a round key enters. -/
def add (a b : Block) : Block := ⟨a.c0.add b.c0, a.c1.add b.c1, a.c2.add b.c2, a.c3.add b.c3⟩

def substitute (b : Block) : Block :=
  ⟨b.c0.substitute, b.c1.substitute, b.c2.substitute, b.c3.substitute⟩

/-- Row `i` moved left by `i` places. -/
def shiftRows (b : Block) : Block :=
  ⟨⟨b.c0.r0, b.c1.r1, b.c2.r2, b.c3.r3⟩,
   ⟨b.c1.r0, b.c2.r1, b.c3.r2, b.c0.r3⟩,
   ⟨b.c2.r0, b.c3.r1, b.c0.r2, b.c1.r3⟩,
   ⟨b.c3.r0, b.c0.r1, b.c1.r2, b.c2.r3⟩⟩

def mixColumns (b : Block) : Block := ⟨b.c0.mix, b.c1.mix, b.c2.mix, b.c3.mix⟩

end Block

/-! ## Key schedule -/

/-- What the schedule does to word `i - 1` before adding word `i - size`: at a multiple of the key
size rotate, substitute and add the round constant; for the longest key substitute half-way. -/
def scheduleStep (size i : Nat) (constant : UInt8) (previous : Column) : Column :=
  if i % size = 0 then previous.rotate.substitute.add ⟨constant, 0, 0, 0⟩
  else if size > 6 ∧ i % size = 4 then previous.substitute
  else previous

/-- `count` more words of the schedule. `newest` holds the words so far, the last one first;
`constant` is the next round constant, doubled each time it is used. -/
def extendSchedule (size : Nat) :
    (count i : Nat) → (constant : UInt8) → (newest : List Column) → List Column
  | 0, _, _, newest => newest
  | count + 1, i, constant, newest =>
    let zero : Column := ⟨0, 0, 0, 0⟩
    let word := (newest.getD (size - 1) zero).add
      (scheduleStep size i constant (newest.getD 0 zero))
    let following := if i % size = 0 then Column.double constant else constant
    extendSchedule size count (i + 1) following (word :: newest)

def roundKeys : List Column → List Block
  | a :: b :: c :: d :: rest => ⟨a, b, c, d⟩ :: roundKeys rest
  | _ => []

/-- The round keys: seven more than the key has words. -/
def expandKey (key : Bytes) : List Block :=
  let size := key.length / 4
  let words := (Bytes.blocks 4 size key).map Column.ofBytes
  roundKeys (extendSchedule size (4 * (size + 7) - size) size 1 words.reverse).reverse

/-! ## Encryption -/

/-- The rounds after the first key: the last one does not mix columns. -/
def rounds : List Block → Block → Block
  | [], b => b
  | [last], b => b.substitute.shiftRows.add last
  | key :: rest, b => rounds rest (b.substitute.shiftRows.mixColumns.add key)

def encryptBlock (keys : List Block) (b : Block) : Block :=
  match keys with
  | [] => b
  | first :: rest => rounds rest (b.add first)

end DeviceTrust.Aes
