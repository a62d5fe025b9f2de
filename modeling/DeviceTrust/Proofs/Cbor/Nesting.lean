import DeviceTrust.Proofs.Cbor.OnWire
import DeviceTrust.Proofs.Cbor.RoundTrip

/-!
# How deep a value is nested that was read

A reader follows arrays, maps and tags down to a depth and no further. What it gives is nested no
deeper: if it is plain at all, it is plain at the depth of the reader (`plain_of_decode?`). So a plain
value that was decoded can be encoded and decoded again.
-/

set_option autoImplicit false

namespace DeviceTrust.Cbor

/-- **Nested within a depth**: if a value is plain at any depth, it is plain at this one. -/
def Within (depth : Nat) (v : Value) : Prop := ∀ d, Plain d v → Plain depth v

variable {depth : Nat} {v : Value}

theorem Within.mono {depth' : Nat} (h : Within depth v) (hle : depth ≤ depth') :
    Within depth' v := by
  intro d hv
  exact (h d hv).mono hle

theorem within_zero (h : Item (fun _ => False) v) : Within 0 v := by
  intro d hv
  cases h with
  | null | undefined | bool _ | float _ | text _ | bytes _ => constructor
  | simple _ => cases hv with
    | simple h => exact .simple h
  | int h => exact .int h
  | list h =>
      rw [List.eq_nil_iff_forall_not_mem.2 h]
      exact .noItems
  | tuple h =>
      rw [List.eq_nil_iff_forall_not_mem.2 h]
      exact .noFixedItems
  | map flavour hk _ =>
      rw [List.eq_nil_iff_forall_not_mem.2 hk]
      exact .noEntries flavour
  | tag _ h | content h | bigInt _ h | object _ h | set _ _ h => exact h.elim

theorem within_succ (h : Item (Within depth) v) : Within (depth + 1) v := by
  intro d hv
  cases h with
  | list h => cases hv with
    | noItems => exact .noItems
    | list hitems => exact .list fun x hx => h x hx _ (hitems x hx)
  | tuple h => cases hv with
    | noFixedItems => exact .noFixedItems
    | tuple hitems => exact .tuple fun x hx => h x hx _ (hitems x hx)
  | map flavour hk hc => cases hv with
    | noEntries => exact .noEntries flavour
    | map _ hk' hc' =>
        exact .map flavour (fun e he => hk e he _ (hk' e he)) fun e he => hc e he _ (hc' e he)
  | tag number h => cases hv with
    | tag hn hm hc => exact .tag hn hm (h _ hc)
  | content h => exact h.mono (Nat.le_succ depth) d hv
  | bigInt n _ => exact .bigInt n
  | object _ _ | set _ _ _ => cases hv
  -- what has no parts takes no level
  | null | undefined | bool _ | float _ | text _ | bytes _ => constructor
  | simple _ => cases hv with
    | simple h => exact .simple h
  | int h => exact .int h

/-- **What is decoded and plain is plain within the limit of nesting.** -/
theorem plain_of_decode? {b : Bytes} (h : decode? b = some v) {d : Nat} (hv : Plain d v) :
    Plain depthLimit v :=
  of_decode? (fun _ => within_zero) (fun _ _ => within_succ) h d hv

end DeviceTrust.Cbor
