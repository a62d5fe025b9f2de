import DeviceTrust.Error
import DeviceTrust.Logging.Level

/-!
# Results with log records

An operation gives a result, or an error, and the log records that it wrote on the way. Records
written before an error are kept.
-/

set_option autoImplicit false

namespace DeviceTrust

structure LogRecord where
  level : Level
  logger : String
  message : String
  deriving DecidableEq, Repr

/-- The result of an operation, with its log records in order. -/
structure Traced (α : Type) where
  records : List LogRecord
  result : Except Error α

namespace Traced

def ofExcept {α : Type} (result : Except Error α) : Traced α := ⟨[], result⟩

def fail {α : Type} (e : Error) : Traced α := ofExcept (.error e)

/-- One operation after another; an error ends the sequence. -/
def andThen {α β : Type} (x : Traced α) (f : α → Traced β) : Traced β :=
  match x.result with
  | .error e => ⟨x.records, .error e⟩
  | .ok a => ⟨x.records ++ (f a).records, (f a).result⟩

instance : Monad Traced where
  pure a := ofExcept (.ok a)
  bind := andThen

instance : MonadLift (Except Error) Traced where
  monadLift := ofExcept

def mapError {α : Type} (f : Error → Error) (x : Traced α) : Traced α :=
  ⟨x.records, x.result.mapError f⟩

/-- One record, if its level is at least the threshold. -/
def record (threshold : Level) (r : LogRecord) : Traced Unit :=
  ⟨if threshold ≤ r.level then [r] else [], .ok ()⟩

end Traced

end DeviceTrust
