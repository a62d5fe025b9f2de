import DeviceTrust.Cbor.Value

/-!
# Sameness of values

Two values are the same when nothing but their spelling differs: numbers by their exact value,
whatever their type; byte strings of either sort by their bytes; maps by their entries, and sets by
their elements, in any order. Text and byte strings are never the same, nor are the two sorts of
arrays. A simple value is the same as the integer or boolean with its number, but not as another
number of that value. A not-a-number is the same as nothing.

Inside arrays, maps and messages one and the same object agrees with itself, even if it is a
not-a-number.
-/

set_option autoImplicit false

namespace DeviceTrust.Value

/-- Whether a value is the given integer, in any spelling. -/
def sameAsInt (i : Int) : Value → Bool
  | float x => x.equalsInt i
  | simple code => i == code.toNat
  | object o => o.real? == some (.ofInt i)
  | v => v.wholeNumber? == some i

def sameAsFloat (x : Binary64) : Value → Bool
  | float y => x.equals y
  | object o => o.sameAsFloat x
  | v => match v.wholeNumber? with
    | some i => x.equalsInt i
    | none => false

/-- Whether a value is the given object, or the same number in another spelling. -/
def sameAsObject (o : TaggedObject) : Value → Bool
  | float x => o.sameAsFloat x
  | object p => o.same p
  | v => match v.wholeNumber? with
    | some i => o.real? == some (.ofInt i)
    | none => false

/-- Whether two values are one occurrence of a not-a-number, or of a complex number with one. -/
def sameOccurrence : Value → Value → Bool
  | float x, float y => x.sharesPayload y
  | object (.complex r i), object (.complex r' i') =>
    r.bits == r'.bits && i.bits == i'.bits && (r.sharesPayload r' || i.sharesPayload i')
  | _, _ => false

mutual

def same : Value → Value → Bool
  | null, v => (v matches null)
  | bool b, v => v.sameAsInt (if b then 1 else 0)
  | int n, v => v.sameAsInt n
  | registered r, v => v.sameAsInt r.number
  | float x, v => v.sameAsFloat x
  | text s, v => match v with
    | text t => s == t
    | _ => false
  | bytes b, v => v.byteString? == some b
  | buffer b, v => v.byteString? == some b
  | list xs, v => match v with
    | list ys => sameItems xs ys
    | _ => false
  | tuple xs, v => match v with
    | tuple ys => sameItems xs ys
    | _ => false
  | map _ es, v => match v with
    | map _ fs => es.length == fs.length && includes fs es
    | _ => false
  | tag n x, v => match v with
    | tag m y => n == m && same x y
    | _ => false
  | simple a, v => match v with
    | simple b => a == b
    | v => v.wholeNumber? == some (a.toNat : Int)
  | undefined, v => (v matches undefined)
  | kind a, v => match v with
    | kind b => a == b
    | _ => false
  | coseKey es, v => match v with
    | coseKey fs => es.length == fs.length && includes fs es
    | _ => false
  | message p _ q s, v => match v with
    | message p' _ q' s' =>
      (sameOccurrence p p' || same p p') && (sameOccurrence q q' || same q q')
        && (sameOccurrence s s' || same s s')
    | _ => false
  | publicKey a, v => match v with
    | publicKey b => a == b
    | _ => false
  | privateKey _ a, v => match v with
    | privateKey _ b => a.same b
    | _ => false
  | keyPair _ a, v => match v with
    | keyPair _ b => a.same b
    | _ => false
  | object o, v => v.sameAsObject o
  | set _ xs, v => match v with
    | set _ ys => xs.length == ys.length && contained ys xs
    | _ => false
  | unknown a, v => match v with
    | unknown b => a.same b
    | _ => false

def sameItems : List Value → List Value → Bool
  | [], ys => ys.isEmpty
  | x :: xs, ys => match ys with
    | [] => false
    | y :: ys => (sameOccurrence x y || same x y) && sameItems xs ys

/-- Whether every entry of a second list of entries has the same content as the first entry with its
label among the first list. -/
def includes (fs : Entries) : Entries → Bool
  | [] => true
  | (k, v) :: es =>
    (fs.find? fun f => sameOccurrence k f.1 || same k f.1).any
        (fun f => sameOccurrence v f.2 || same v f.2) && includes fs es

/-- Whether every element of a second list is among the first. -/
def contained (ys : List Value) : List Value → Bool
  | [] => true
  | x :: xs => ys.any (fun y => sameOccurrence x y || same x y) && contained ys xs

end

/-- Whether two values are the same, or one and the same object: the sameness of elements. -/
def agrees (v w : Value) : Bool := sameOccurrence v w || same v w

end DeviceTrust.Value
