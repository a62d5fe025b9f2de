import DeviceTrust.Cbor.Coercion
import DeviceTrust.Hash.Hkdf
import DeviceTrust.Platform

/-!
# Derived bytes

Any number of bytes from one up to a greatest length can be derived from a secret. The length is
looked at before anything else, also before the platform is asked for the primitive.
-/

set_option autoImplicit false

namespace DeviceTrust

def Platform.derive (p : Platform) (secret : Bytes) (length : Int) (info : Bytes)
    (salt : Option Bytes) : Except Error Bytes :=
  if length < 1 || (Parameters.greatestOutputLength : Int) < length then
    .error (.fault (.outputLength (toString length)))
  else do
    p.require .hkdf
    return Hash.Hkdf.derive secret salt info length.toNat

/-- Fails unless a value is a number within the range of output lengths. A fraction within it
passes, and so does a not-a-number, which is on neither side of it. -/
def Value.requireOutputLength (v : Value) : Except Fault Unit :=
  let greatest : Int := Parameters.greatestOutputLength
  let check (outside : Bool) : Except Fault Unit :=
    if outside then .error (.outputLength v.plainNumber.literal) else .ok ()
  match v, v.wholeNumber? with
  | .float x, _ => check (x.lessThanInt 1 || x.negated.lessThanInt (-greatest))
  | _, some n => check (n < 1 || greatest < n)
  | _, none => .error (.plain .type)

/-- Derives bytes from values of any sort: the length is looked at before all else. An empty salt
is none, and missing context is empty. -/
def Platform.deriveOf (p : Platform) (secret length info salt : Value) : Except Error Bytes := do
  length.requireOutputLength.mapError Error.fault
  p.require .hkdf
  let info : Value := if info matches .null then .bytes [] else info
  let salt? : Option (Option Bytes) := match salt with
    | .bytes b => some (some b)
    | salt => if salt.isEmpty then some none else none
  match length.wholeNumber?, secret.byteString?, info, salt? with
  | some n, some secret, .bytes info, some salt =>
    p.derive secret n info (if salt = some [] then none else salt)
  | _, _, _, _ => throw (.fault (.plain .type))

end DeviceTrust
