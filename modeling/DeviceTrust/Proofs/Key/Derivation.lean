import DeviceTrust.Proofs.Hash.Hkdf
import DeviceTrust.Proofs.Key.Agreement

/-!
# Derived bytes

What is derived from a secret is the output of the standard, of every length from 1 to 8160, and a
number outside of this range is refused as a value, whatever else is asked for
(`Platform.derivation_exact`). A salt is a byte string, and whatever counts as nothing is the empty one
(`Value.salt?`).
-/

set_option autoImplicit false

namespace DeviceTrust

namespace Value

/-- **The salt that a value stands for**: a byte string, or the empty one for what counts as
nothing. -/
def salt? : Value → Option Bytes
  | bytes s => some s
  | v => if v.isEmpty then some [] else none

theorem isEmpty_of_salt? {v : Value} {s : Bytes} (hv : ∀ b, v ≠ bytes b) (h : v.salt? = some s) :
    v.isEmpty = true ∧ s = [] := by
  unfold salt? at h
  split at h
  · exact absurd rfl (hv _)
  · split at h
    · rename_i hempty
      exact ⟨hempty, (Option.some.inj h).symm⟩
    · cases h

/-- **The lengths that pass** are the numbers from 1 to the greatest; any other number is told. -/
theorem requireOutputLength_of_wholeNumber? {v : Value} {n : Int} (h : v.wholeNumber? = some n) :
    v.requireOutputLength
      = if 1 ≤ n ∧ n ≤ Parameters.greatestOutputLength then .ok ()
        else .error (.outputLength v.plainNumber.literal) := by
  have hcheck : v.requireOutputLength
      = if (decide (n < 1) || decide ((Parameters.greatestOutputLength : Int) < n)) = true
          then .error (.outputLength v.plainNumber.literal) else .ok () := by
    cases v with
    | bool _ | int _ | registered _ =>
        cases h
        rfl
    | _ => cases h
  rw [hcheck]
  split
  · rename_i houtside
    simp only [Bool.or_eq_true, decide_eq_true_eq] at houtside
    rw [if_neg (by omega)]
  · rename_i hinside
    simp only [Bool.or_eq_true, decide_eq_true_eq, not_or, Int.not_lt] at hinside
    rw [if_pos hinside]

end Value

namespace Platform

variable {p : Platform} {secret length info salt : Value} {k s : Bytes} {n : Int}

/-- **A number out of range is refused** before anything else is looked at. -/
theorem deriveOf_of_outside (h : length.wholeNumber? = some n)
    (hn : ¬ (1 ≤ n ∧ n ≤ Parameters.greatestOutputLength)) :
    p.deriveOf secret length info salt
      = .error (.fault (.outputLength length.plainNumber.literal)) := by
  unfold deriveOf
  rw [Value.requireOutputLength_of_wholeNumber? h, if_neg hn]
  rfl

theorem inside_of_deriveOf {output : Bytes} (h : length.wholeNumber? = some n)
    (houtput : p.deriveOf secret length info salt = .ok output) :
    1 ≤ n ∧ n ≤ Parameters.greatestOutputLength := by
  by_cases hn : 1 ≤ n ∧ n ≤ Parameters.greatestOutputLength
  · exact hn
  · cases houtput.symm.trans (deriveOf_of_outside h hn)

/-- The empty salt is taken for none, and none for the empty one. -/
theorem getD_salt (s : Bytes) : (if some s = some [] then none else some s).getD [] = s := by
  split
  · rename_i hempty
    exact (Option.some.inj hempty).symm
  · rfl

/-- **A number in range is derived** under the salt that is given. -/
theorem deriveOf_of_inside (h : length.wholeNumber? = some n)
    (hn : 1 ≤ n ∧ n ≤ Parameters.greatestOutputLength) (hp : .hkdf ∉ p.missing)
    (hsecret : secret.byteString? = some k) (hsalt : salt.salt? = some s) (info : Bytes) :
    p.deriveOf secret length (.bytes info) salt
      = .ok (Hash.Hkdf.expand (Hash.hmac s k) info n.toNat) := by
  have hderive : ∀ salt : Option Bytes, salt.getD [] = s →
      p.derive k n info salt = .ok (Hash.Hkdf.expand (Hash.hmac s k) info n.toNat) := by
    intro salt hsame
    refine derive_eq_ok_iff.2 ⟨hn, hp, ?_⟩
    rw [Hash.Hkdf.derive, Hash.Hkdf.extract_eq, hsame]
  unfold deriveOf
  rw [Value.requireOutputLength_of_wholeNumber? h, if_pos hn, require_eq_ok_iff.2 hp, h, hsecret]
  cases salt with
  | bytes _ =>
      cases hsalt
      exact hderive _ (getD_salt s)
  | _ =>
      obtain ⟨hempty, rfl⟩ := Value.isEmpty_of_salt? (by simp) hsalt
      simp only [hempty]
      exact hderive none rfl

/-- **A salt that the keyed hash takes for the empty one is none**, whatever else is asked for. -/
theorem deriveOf_bytes_eq_null (h : Hash.hmac s = Hash.hmac []) :
    p.deriveOf secret length info (.bytes s) = p.deriveOf secret length info .null := by
  have hsame : ∀ (k : Bytes) (n : Int) (i : Bytes),
      p.derive k n i (if some s = some [] then none else some s) = p.derive k n i none := by
    intro k n i
    unfold derive Hash.Hkdf.derive
    rw [Hash.Hkdf.extract_eq, Hash.Hkdf.extract_eq, getD_salt, h]
    rfl
  unfold deriveOf
  refine bind_congr fun _ => bind_congr fun _ => ?_
  dsimp only
  -- the salt is used only where there are a number, a secret and a context
  cases length.wholeNumber? with
  | none => rfl
  | some n =>
      cases secret.byteString? with
      | none => rfl
      | some k =>
          cases info with
          | null | bytes _ => exact hsame k n _
          | _ => rfl

/-- **Derived bytes are the output of the standard**, on a platform that has the hash, for every secret
and context and every salt. For each length from 1 to 8160 as many bytes are derived, and these are the
one output of this length that the standard knows: the front of the blocks under the key that is
extracted from the secret, each numbered in one byte. Any other number is refused as a value. The
shorter of two outputs is the front of the longer one; and no salt, the empty one and 32 zeros are one
salt. -/
theorem derivation_exact (p : Platform) (hp : .hkdf ∉ p.missing) {secret salt : Value} {k s : Bytes}
    (hsecret : secret.byteString? = some k) (hsalt : salt.salt? = some s) (info : Bytes) :
    let derived (length : Value) := p.deriveOf secret length (.bytes info) salt
    (∀ (length : Value) (n : Int), length.wholeNumber? = some n → 1 ≤ n → n ≤ 8160 →
      ∃ output, derived length = .ok output ∧ (output.length : Int) = n ∧
        ∀ other, Hash.Hkdf.IsOutput (Hash.hmac s k) info n.toNat other ↔ other = output) ∧
    (∀ i block, Hash.Hkdf.IsBlock (Hash.hmac s k) info i block → i ≤ 255) ∧
    (∀ (length : Value) (n : Int), length.wholeNumber? = some n → ¬ (1 ≤ n ∧ n ≤ 8160) →
      ∃ f, f.faultClass = .value ∧ derived length = .error (.fault f)) ∧
    (∀ (short long : Value) (n m : Int), short.wholeNumber? = some n → long.wholeNumber? = some m →
      1 ≤ n → n ≤ m → ∀ output, derived long = .ok output →
        derived short = .ok (output.take n.toNat)) ∧
    ∀ secret length info : Value,
      p.deriveOf secret length info (.bytes []) = p.deriveOf secret length info .null ∧
      p.deriveOf secret length info (.bytes (Bytes.zeros 32))
        = p.deriveOf secret length info .null := by
  intro derived
  refine ⟨fun length n hn hlow hhigh => ?_, fun _ _ hblock => hblock.le,
    fun length n hn hrange => ?_, fun short long n m hn hm hlow hle output houtput => ?_,
    fun secret length info => ⟨deriveOf_bytes_eq_null rfl, deriveOf_bytes_eq_null ?_⟩⟩
  · refine ⟨_, deriveOf_of_inside hn ⟨hlow, hhigh⟩ hp hsecret hsalt info, ?_, fun other => ?_⟩
    · rw [Hash.Hkdf.length_expand]
      omega
    · rw [Hash.Hkdf.isOutput_iff]
      constructor
      · rintro ⟨-, rfl⟩
        rfl
      · rintro rfl
        exact ⟨by omega, rfl⟩
  · exact ⟨_, rfl, deriveOf_of_outside hn hrange⟩
  · have hrange := inside_of_deriveOf hm houtput
    have hlong : derived long = _ := deriveOf_of_inside hm hrange hp hsecret hsalt info
    cases houtput.symm.trans hlong
    rw [Hash.Hkdf.expand_take (by omega)]
    exact deriveOf_of_inside hn ⟨hlow, Int.le_trans hle hrange.2⟩ hp hsecret hsalt info
  · exact funext (Hash.hmac_zeros (by decide))

/-- A secret of 22 bytes in a buffer, without salt and context: 42 bytes, the first 16 of them, and a
byte too many. -/
theorem derivation_exact_unsalted :
    let derived (length : Value) : Except Error Bytes :=
      ({} : Platform).deriveOf (.buffer (List.replicate 22 0x0b)) length (.bytes []) .null
    let output : Bytes := [
      0x8d, 0xa4, 0xe7, 0x75, 0xa5, 0x63, 0xc1, 0x8f, 0x71, 0x5f, 0x80, 0x2a, 0x06, 0x3c, 0x5a, 0x31,
      0xb8, 0xa1, 0x1f, 0x5c, 0x5e, 0xe1, 0x87, 0x9e, 0xc3, 0x45, 0x4e, 0x5f, 0x3c, 0x73, 0x8d, 0x2d,
      0x9d, 0x20, 0x13, 0x95, 0xfa, 0xa4, 0xb6, 0x1a, 0x96, 0xc8]
    derived (.int 42) = .ok output ∧ derived (.int 16) = .ok (output.take 16) ∧
      ∃ f, f.faultClass = .value ∧ derived (.int 8161) = .error (.fault f) := by
  intro derived output
  have hexpand : Hash.Hkdf.expand (Hash.hmac [] (List.replicate 22 0x0b)) [] 42 = output := by
    decide +kernel
  have hlong : derived (.int 42) = .ok output := by
    rw [← hexpand]
    exact deriveOf_of_inside (n := 42) rfl (by decide) (by decide) rfl rfl []
  obtain ⟨-, -, houtside, hfront, -⟩ := derivation_exact {} (by decide)
    (show (Value.buffer (List.replicate 22 0x0b)).byteString? = some _ from rfl)
    (show Value.null.salt? = some [] from rfl) []
  exact ⟨hlong, hfront (.int 16) (.int 42) 16 42 rfl rfl (by decide) (by decide) output hlong,
    houtside (.int 8161) 8161 rfl (by decide)⟩

end Platform

end DeviceTrust
