import DeviceTrust.Cbor.Entries

/-!
# The secret part of a key

One label stands for the secret part of a key of either type. It is the same label in every
spelling, and a key without it is public.
-/

set_option autoImplicit false

namespace DeviceTrust

def Value.isSecretLabel (label : Value) : Bool := label.sameAsInt KeyLabel.d.number

namespace Entries

def hasSecret (es : Entries) : Bool := es.any fun p => p.1.isSecretLabel

def withoutSecret (es : Entries) : Entries := es.filter fun p => !p.1.isSecretLabel

/-- **A key without its secret part has none.** -/
@[simp] theorem hasSecret_withoutSecret (es : Entries) : es.withoutSecret.hasSecret = false := by
  simp [hasSecret, withoutSecret]

theorem withoutSecret_eq_self {es : Entries} (h : es.hasSecret = false) :
    es.withoutSecret = es := by
  simpa [hasSecret, withoutSecret, List.filter_eq_self] using h

end Entries

end DeviceTrust
