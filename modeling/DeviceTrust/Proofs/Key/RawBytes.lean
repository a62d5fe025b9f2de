import DeviceTrust.Proofs.Key.RoundTrip
import DeviceTrust.Proofs.Cbor.Coercion

/-!
# What is taken for raw bytes

A public key on a raw curve is made of thirty-two bytes. What stands for thirty-two bytes
(`Value.StandsFor`) makes the key with these bytes, and everything else is a malformed key with the
length that it has, if it has one. A whole number can be too great for that: too great to count bytes,
or too great for the memory that the platform has. Both faults are passed on as they are
(`PublicKey.ofRaw_of_value`).
-/

set_option autoImplicit false

namespace DeviceTrust

namespace PublicKey

variable {p : Platform} {c : RawCurve} {v : Value} {f : Fault} {source : ByteSource} {raw : RawKey}

/-! ## Keys -/

/-- **The report on what is no public key on a raw curve**: the length that there should be, and the one
that there is, if there is one. -/
def malformed (c : RawCurve) (v : Value) : Report :=
  ⟨s!"Invalid {c.name} public key", .malformedKey, some "x", .int 32,
    (v.length?.map fun n => Value.int n).getD .null⟩

theorem report?_rawKey (c : RawCurve) (v : Value) (f : Fault) :
    (Error.rawKey c v.length? f).report? = some (malformed c v) := by
  cases c <;> rfl

theorem ofRaw_of_toBytes_eq_ok (hp : c.primitive ∉ p.missing)
    (h : v.toBytes p.memory = .ok source) :
    ofRaw p c v = if h : source.length = 32 then .ok (c.publicKey ⟨source.bytes, by simp [h]⟩)
      else .error (.rawKey c v.length? (.plain .value)) := by
  unfold ofRaw
  rw [h]
  show p.require c.primitive >>= _ = _
  rw [Platform.require_eq_ok_iff.2 hp]
  rfl

/-- What is not read as bytes is a malformed key, unless its number is too great. -/
theorem ofRaw_of_toBytes_eq_error (h : v.toBytes p.memory = .error f) :
    ofRaw p c v = if f.faultClass = .overflow || f.faultClass = .memory then .error (.fault f)
      else .error (.rawKey c v.length? f) := by
  unfold ofRaw
  rw [h]

/-- **What is taken for a public key on a raw curve**, on a platform that has the curve: a value of any
type makes a key exactly if it stands for thirty-two bytes that there is memory for, and these are the
raw bytes of the key. Of the other values a whole number that is too great, for counting or for the
memory, is passed on as a fault; all that remain are malformed keys. -/
theorem ofRaw_of_value (p : Platform) (c : RawCurve) (hp : c.primitive ∉ p.missing) (v : Value) :
    (∀ k, ofRaw p c v = .ok k ↔ ¬ v.Exhausting p.memory ∧ ∃ raw : RawKey, v.StandsFor raw.bytes ∧
      k = c.publicKey raw ∧ Value.toRaw (.publicKey k) = .ok raw.bytes) ∧
    (v.Uncountable → ofRaw p c v = .error (.fault (.plain .overflow))) ∧
    (v.Exhausting p.memory → ofRaw p c v = .error (.fault (.plain .memory))) ∧
    (¬ v.Uncountable → ¬ v.Exhausting p.memory → (¬ ∃ raw : RawKey, v.StandsFor raw.bytes) →
      ∃ e, ofRaw p c v = .error e ∧ e.report? = some (malformed c v)) := by
  refine ⟨fun k => ⟨fun h => ?_, ?_⟩, fun h => ?_, fun h => ?_, fun hc he hnone => ?_⟩
  -- a key: what is read as bytes stands for them, and conversely
  · cases hv : v.toBytes p.memory with
    | error f =>
        rw [ofRaw_of_toBytes_eq_error hv] at h
        split at h <;> cases h
    | ok source =>
        obtain ⟨hsource, -, hmemory⟩ := Value.standsFor_of_toBytes hv
        rw [ofRaw_of_toBytes_eq_ok hp hv] at h
        split at h
        · cases h
          exact ⟨hmemory, _, hsource, rfl, toRaw_publicKey c _⟩
        · cases h
  · rintro ⟨hmemory, raw, hraw, rfl, -⟩
    have hcount : (raw.bytes.length : Int) ≤ Value.greatestSize := by
      rw [raw.length_eq]
      decide
    obtain ⟨source, hv, hbytes⟩ :=
      Value.exists_toBytes_of_standsFor hraw (hraw.not_uncountable hcount) hmemory
    have hsource : source.length = 32 := by
      rw [← ByteSource.length_bytes, hbytes, raw.length_eq]
    rw [ofRaw_of_toBytes_eq_ok hp hv, dif_pos hsource]
    obtain ⟨bytes, hlength⟩ := raw
    cases hbytes
    rfl
  · rw [ofRaw_of_toBytes_eq_error (Value.toBytes_of_uncountable h)]
    rfl
  · rw [ofRaw_of_toBytes_eq_error (Value.toBytes_of_exhausting h)]
    rfl
  · rcases (v.toBytes_failsOnly p.memory).ok_or_error with ⟨source, hv⟩ | ⟨f, hv, hf⟩
    · rw [ofRaw_of_toBytes_eq_ok hp hv]
      split
      · rename_i hlength
        exact absurd ⟨⟨source.bytes, by simp [hlength]⟩, (Value.standsFor_of_toBytes hv).1⟩ hnone
      · exact ⟨_, rfl, report?_rawKey c v _⟩
    · refine ⟨_, ?_, report?_rawKey c v f⟩
      rw [ofRaw_of_toBytes_eq_error hv]
      cases hf with
      | sort h => rcases h with h | h <;> simp [h]
      | uncountable h => exact absurd h hc
      | exhausting h => exact absurd h he

/-- Thirty-two zeros written out are a key, a text is a malformed one, and the greatest number that
fits in 64 bits is neither. -/
theorem ofRaw_of_value_kinds :
    (∃ k, ofRaw {} .x25519 (.list (List.replicate 32 (.int 0))) = .ok k) ∧
      (∃ e, ofRaw {} .x25519 (.text "key") = .error e ∧
        e.report? = some (malformed .x25519 (.text "key"))) ∧
      ofRaw {} .x25519 (.int (2 ^ 63 - 1)) = .error (.fault (.plain .overflow)) := by
  have hvalue := ofRaw_of_value {} .x25519 List.not_mem_nil
  refine ⟨?_, ?_, ?_⟩
  · have hzeros : Value.StandsFor (.list (List.replicate 32 (.int 0))) (Bytes.zeros 32) :=
      .numbers rfl (by decide)
    have hmemory : ¬ Value.Exhausting (.list (List.replicate 32 (.int 0))) (Platform.memory {}) :=
      Value.not_exhausting_of_wholeNumber? rfl
    exact ⟨_, ((hvalue _).1 _).2 ⟨hmemory, ⟨Bytes.zeros 32, rfl⟩, hzeros, rfl, rfl⟩⟩
  · refine (hvalue (.text "key")).2.2.2 ?_ ?_ ?_
    · rintro ⟨n, ⟨⟩, -⟩
    · rintro ⟨n, ⟨⟩, -⟩
    · rintro ⟨raw, h⟩
      generalize raw.bytes = b at h
      cases h with
      | bytes h | numbers h _ | zeros h => cases h
  · refine (hvalue _).2.1 ⟨_, rfl, .inr ?_⟩
    decide

/-- **Not only thirty-two bytes are accepted, and not every refusal is a report**: the number thirty-two
is taken for the key of zeros, and the greatest number that fits in 64 bits gives an error that is none
of the library's own. -/
theorem ofRaw_of_numbers :
    ofRaw {} .x25519 (.int 32) = .ok (.x25519 ⟨Bytes.zeros 32, rfl⟩) ∧
      ∃ e, ofRaw {} .x25519 (.int (2 ^ 63 - 1)) = .error e ∧ e.isReported = false :=
  ⟨rfl, _, rfl, rfl⟩

end PublicKey

end DeviceTrust
