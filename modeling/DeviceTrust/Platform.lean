import DeviceTrust.Logging.Traced

/-!
# The platform

What an operation finds around it: the primitives that are missing, the log level, and the
one-time scalar for a randomised signature.
-/

set_option autoImplicit false

namespace DeviceTrust

/-- The surroundings of an operation. -/
structure Platform where
  /-- The primitives that the platform lacks. -/
  missing : List Primitive := []
  /-- The least level of a record that is kept. -/
  threshold : Level := Level.warning
  /-- The one-time scalar of the next randomised signature. -/
  nonce : Nat := 1
  /-- The number of bytes from which on there is not enough memory for them. -/
  memory : Nat := 0x10000000000

namespace Platform

/-- Fails if a primitive is missing. -/
def require (p : Platform) (primitive : Primitive) : Except Error Unit :=
  if p.missing.contains primitive then .error (.missing primitive) else .ok ()

def log (p : Platform) (level : Level) (logger message : String) : Traced Unit :=
  Traced.record p.threshold ⟨level, logger, message⟩

end Platform

end DeviceTrust
