import DeviceTrust.Number.Exact
import Mathlib.Data.Nat.Prime.Basic
import Mathlib.Tactic.Ring
import Mathlib.Tactic.Positivity
import Mathlib.Tactic.GCongr

/-!
# Exact numbers and integers

The form of an exact number is one (`Factored.IsOf.unique`). So a floating-point number has the form of
an integer exactly if it is the integer (`ofBinary64?_eq_some_ofInt_iff`), and no two integers have
the same form (`ofInt_injective`). Every decimal number has a whole part, whatever its exponent is
(`truncate_ofDecimal`).
-/

set_option autoImplicit false

namespace DeviceTrust

namespace Exact

/-! ## Factors set apart -/

theorem takeOut_eq (factor fuel n : Nat) :
    n = (takeOut factor fuel n).1 * factor ^ (takeOut factor fuel n).2 := by
  induction fuel generalizing n with
  | zero => simp [takeOut]
  | succ fuel ih =>
      rw [takeOut]
      split
      · rename_i hdvd
        show n = (takeOut factor fuel (n / factor)).1 * factor ^ ((takeOut factor fuel (n / factor)).2 + 1)
        rw [pow_succ, ← mul_assoc, ← ih, Nat.div_mul_cancel (Nat.dvd_of_mod_eq_zero hdvd)]
      · simp

/-- With as much fuel as there are digits, nothing of the factor is left. -/
theorem not_dvd_takeOut {factor fuel n : Nat} (hfactor : 2 ≤ factor) (hn : 0 < n)
    (hfuel : n < factor ^ fuel) : ¬ factor ∣ (takeOut factor fuel n).1 := by
  induction fuel generalizing n with
  | zero =>
      rw [pow_zero] at hfuel
      omega
  | succ fuel ih =>
      rw [takeOut]
      split
      · rename_i hmod
        have hdvd := Nat.dvd_of_mod_eq_zero hmod
        refine ih (Nat.div_pos (Nat.le_of_dvd hn hdvd) (by omega)) ?_
        rw [pow_succ] at hfuel
        exact Nat.div_lt_of_lt_mul (by rwa [mul_comm])
      · rename_i hmod
        exact fun hdvd => hmod (Nat.mod_eq_zero_of_dvd hdvd)

/-- **The factors two and five of a number are set apart.** -/
structure Factored.IsOf (f : Factored) (n : Nat) : Prop where
  eq : n = f.rest * 5 ^ f.fives * 2 ^ f.twos
  odd : ¬ 2 ∣ f.rest
  fivefree : ¬ 5 ∣ f.rest

/-- What has no factor is found before the powers of the factor. -/
theorem eq_of_mul_pow_eq {p u v a b : Nat} (hp : 0 < p) (hu : ¬ p ∣ u) (hv : ¬ p ∣ v)
    (h : u * p ^ a = v * p ^ b) : u = v ∧ a = b := by
  have hle : ∀ {u v a b : Nat}, ¬ p ∣ u → u * p ^ a = v * p ^ b → b ≤ a := by
    intro u v a b hu h
    by_contra hlt
    obtain ⟨k, rfl⟩ : ∃ k, b = a + 1 + k := ⟨b - (a + 1), by omega⟩
    have hpow : u * p ^ a = p * (v * p ^ k) * p ^ a := by
      rw [h]
      ring
    exact hu ⟨v * p ^ k, Nat.eq_of_mul_eq_mul_right (Nat.pow_pos hp) hpow⟩
  have hab : a = b := Nat.le_antisymm (hle hv h.symm) (hle hu h)
  subst hab
  exact ⟨Nat.eq_of_mul_eq_mul_right (Nat.pow_pos hp) h, rfl⟩

/-- **There is one way to set the factors apart.** -/
theorem Factored.IsOf.unique {f g : Factored} {n : Nat} (hf : f.IsOf n) (hg : g.IsOf n) : f = g := by
  have hodd : ∀ {h : Factored}, h.IsOf n → ¬ 2 ∣ h.rest * 5 ^ h.fives := by
    intro h hh hdvd
    rcases (Nat.Prime.dvd_mul Nat.prime_two).1 hdvd with hdvd | hdvd
    · exact hh.odd hdvd
    · exact absurd (Nat.Prime.dvd_of_dvd_pow Nat.prime_two hdvd) (by decide)
  obtain ⟨hrest, htwos⟩ := eq_of_mul_pow_eq (by decide) (hodd hf) (hodd hg) (hf.eq.symm.trans hg.eq)
  obtain ⟨hrest, hfives⟩ := eq_of_mul_pow_eq (by decide) hf.fivefree hg.fivefree hrest
  obtain ⟨rest, twos, fives⟩ := f
  cases hrest
  cases htwos
  cases hfives
  rfl

theorem Factored.isOf_of {n : Nat} (hn : 0 < n) : (Factored.of n).IsOf n := by
  have htwo : n < 2 ^ (n.log2 + 1) := Nat.lt_log2_self
  have hodd := takeOut_eq 2 (n.log2 + 1) n
  have hrest := takeOut_eq 5 (n.log2 + 1) (takeOut 2 (n.log2 + 1) n).1
  have hpos : 0 < (takeOut 2 (n.log2 + 1) n).1 := by
    by_contra hzero
    rw [Nat.eq_zero_of_not_pos hzero, zero_mul] at hodd
    omega
  have hfive : (takeOut 2 (n.log2 + 1) n).1 < 5 ^ (n.log2 + 1) :=
    calc (takeOut 2 (n.log2 + 1) n).1
        ≤ (takeOut 2 (n.log2 + 1) n).1 * 2 ^ (takeOut 2 (n.log2 + 1) n).2 :=
          Nat.le_mul_of_pos_right _ (Nat.pow_pos (by decide))
      _ = n := hodd.symm
      _ < 2 ^ (n.log2 + 1) := htwo
      _ ≤ 5 ^ (n.log2 + 1) := Nat.pow_le_pow_left (by decide) _
  refine ⟨hodd.trans (congrArg (· * _) hrest), ?_, not_dvd_takeOut (by decide) hpos hfive⟩
  -- what is left after the fives divides what was left after the twos, so it stays odd
  intro hdvd
  refine not_dvd_takeOut (by decide) hn htwo ?_
  rw [hrest]
  exact Dvd.dvd.mul_right hdvd _

theorem Factored.of_eq {n : Nat} (hn : 0 < n) {f : Factored} (hf : f.IsOf n) :
    Factored.of n = f :=
  (isOf_of hn).unique hf

theorem Factored.of_one : Factored.of 1 = ⟨1, 0, 0⟩ := rfl

theorem Factored.of_mul_two_pow {n : Nat} (hn : 0 < n) (k : Nat) :
    Factored.of (n * 2 ^ k)
      = ⟨(Factored.of n).rest, (Factored.of n).twos + k, (Factored.of n).fives⟩ := by
  have hof := isOf_of hn
  refine of_eq (Nat.mul_pos hn (Nat.pow_pos (by decide))) ⟨?_, hof.odd, hof.fivefree⟩
  show n * 2 ^ k = _ * 2 ^ ((Factored.of n).twos + k)
  rw [pow_add, ← mul_assoc, ← hof.eq]

/-! ## The form of whole numbers times powers of two -/

theorem make_zero (negative : Bool) (q : Int) : make negative 0 1 q 0 = zero := rfl

theorem make_of_pos {m : Nat} (hm : 0 < m) (negative : Bool) (q : Int) :
    make negative m 1 q 0
      = ⟨negative, (Factored.of m).rest, 1, q + (Factored.of m).twos, (Factored.of m).fives⟩ := by
  rw [make, if_neg (Nat.pos_iff_ne_zero.1 hm)]
  simp [Factored.of_one]

/-- **A power of two can stand on either side.** -/
theorem make_mul_two_pow (negative : Bool) (m k : Nat) (q : Int) :
    make negative (m * 2 ^ k) 1 q 0 = make negative m 1 (q + k) 0 := by
  rcases Nat.eq_zero_or_pos m with rfl | hm
  · rw [zero_mul, make_zero, make_zero]
  · rw [make_of_pos (Nat.mul_pos hm (Nat.pow_pos (by decide))), make_of_pos hm,
      Factored.of_mul_two_pow hm, mk.injEq]
    refine ⟨rfl, rfl, rfl, ?_, rfl⟩
    push_cast
    ring

theorem Factored.rest_pos {n : Nat} (hn : 0 < n) : 0 < (Factored.of n).rest := by
  by_contra hzero
  have heq := (isOf_of hn).eq
  rw [Nat.eq_zero_of_not_pos hzero, zero_mul, zero_mul] at heq
  omega

/-- **Numbers of one form are one number**, and zero has no sign. -/
theorem make_eq_make_iff {negative negative' : Bool} {m m' : Nat} {q : Int} :
    make negative m 1 q 0 = make negative' m' 1 q 0 ↔ m = m' ∧ (m = 0 ∨ negative = negative') := by
  constructor
  · intro h
    rcases Nat.eq_zero_or_pos m with rfl | hm <;> rcases Nat.eq_zero_or_pos m' with rfl | hm'
    · exact ⟨rfl, .inl rfl⟩
    · rw [make_zero, make_of_pos hm', zero, mk.injEq] at h
      have hrest := Factored.rest_pos hm'
      omega
    · rw [make_zero, make_of_pos hm, zero, mk.injEq] at h
      have hrest := Factored.rest_pos hm
      omega
    · rw [make_of_pos hm, make_of_pos hm', mk.injEq] at h
      obtain ⟨hsign, hrest, -, htwos, hfives⟩ := h
      have htwos : (Factored.of m).twos = (Factored.of m').twos := by omega
      have hfives : (Factored.of m).fives = (Factored.of m').fives := by omega
      refine ⟨?_, .inr hsign⟩
      rw [(Factored.isOf_of hm).eq, (Factored.isOf_of hm').eq, hrest, htwos, hfives]
  · rintro ⟨rfl, rfl | rfl⟩
    · rfl
    · rfl

/-! ## Integers -/

theorem signed_eq_iff {negative : Bool} {m : Nat} {n : Int} :
    Binary64.signed negative m = n ↔ m = n.natAbs ∧ (m = 0 ∨ negative = decide (n < 0)) := by
  rw [Binary64.signed]
  cases negative with
  | true =>
      rw [if_pos rfl, eq_comm (a := true), decide_eq_true_iff]
      omega
  | false =>
      rw [if_neg Bool.false_ne_true, eq_comm (a := false), decide_eq_false_iff_not]
      omega

theorem make_eq_ofInt_iff {negative : Bool} {m : Nat} {n : Int} :
    make negative m 1 0 0 = ofInt n ↔ Binary64.signed negative m = n := by
  rw [ofInt, make_eq_make_iff, signed_eq_iff]

/-- **No two integers have one form.** -/
theorem ofInt_injective {m n : Int} (h : ofInt m = ofInt n) : m = n := by
  have hm : Binary64.signed (decide (m < 0)) m.natAbs = m := signed_eq_iff.2 ⟨rfl, .inr rfl⟩
  rw [← hm]
  exact make_eq_ofInt_iff.1 h

/-- **A floating-point number has the form of an integer exactly if it is the integer.** -/
theorem ofBinary64?_eq_some_ofInt_iff {x : Binary64} {n : Int} :
    ofBinary64? x = some (ofInt n) ↔ x.equalsInt n = true := by
  unfold ofBinary64? Binary64.equalsInt
  cases hx : x.meaning with
  | notANumber | infinite _ => simp
  | finite negative m q =>
      simp only [Option.some_inj]
      split
      · rename_i hq
        have hshift : make negative m 1 q 0 = make negative (m <<< q.toNat) 1 0 0 := by
          rw [Nat.shiftLeft_eq, make_mul_two_pow, zero_add, Int.toNat_of_nonneg hq]
        rw [hshift, make_eq_ofInt_iff, beq_iff_eq]
      · rename_i hq
        -- the integer times the power of two that the number is divided by
        have hshift : ofInt n = make (decide (n < 0)) (n.natAbs * 2 ^ (-q).toNat) 1 q 0 := by
          rw [make_mul_two_pow, ofInt]
          congr 1
          omega
        rw [hshift, make_eq_make_iff, Bool.and_eq_true, beq_iff_eq, beq_iff_eq, Nat.one_shiftLeft,
          Nat.shiftRight_eq_div_pow, signed_eq_iff]
        have hpos : 0 < 2 ^ (-q).toNat := Nat.pow_pos (by decide)
        constructor
        · rintro ⟨rfl, hsign⟩
          rw [Nat.mul_mod_left, Nat.mul_div_cancel _ hpos]
          exact ⟨rfl, rfl, hsign.imp_left fun hzero => by
            rcases Nat.mul_eq_zero.1 hzero with hzero | hzero
            · exact hzero
            · omega⟩
        · rintro ⟨hmod, hdiv, hsign⟩
          have hm : m = n.natAbs * 2 ^ (-q).toNat := by
            rw [← hdiv, Nat.div_mul_cancel (Nat.dvd_of_mod_eq_zero hmod)]
          refine ⟨hm, hsign.imp_left fun hzero => ?_⟩
          rw [hm, ← hdiv, hzero, zero_mul]

theorem ofBinary64?_of_isZero {x : Binary64} (h : x.isZero = true) :
    ofBinary64? x = some zero := by
  simp only [Binary64.isZero, Bool.and_eq_true, beq_iff_eq] at h
  simp [ofBinary64?, Binary64.meaning, h.1, h.2, make_zero]

theorem ofBinary64?_congr {x y : Binary64} (h : x.equals y = true) :
    ofBinary64? x = ofBinary64? y := by
  simp only [Binary64.equals, Bool.and_eq_true, Bool.or_eq_true, beq_iff_eq] at h
  rcases h.2 with hbits | ⟨hx, hy⟩
  · obtain ⟨bits⟩ := x
    obtain ⟨bits'⟩ := y
    cases hbits
    rfl
  · rw [ofBinary64?_of_isZero hx, ofBinary64?_of_isZero hy]

/-! ## Whole parts

A number that its exponents show to be below one is not written out, since the power of ten below
its line may be of any size. -/

theorem fraction_lt {x : Exact} (h : x.isTiny = true) (hd : 0 < x.denominator) :
    x.fraction.1 < x.fraction.2 := by
  have hdigits := of_decide_eq_true h
  have hn : x.numerator < 2 ^ (x.numerator.log2 + 1) := Nat.lt_log2_self
  -- `isTiny` counts three binary digits for each five above and two for each five below
  have hpow : 5 ^ x.fives.toNat ≤ 2 ^ (3 * x.fives.toNat) := by
    rw [pow_mul]
    exact Nat.pow_le_pow_left (by decide) _
  have hpow' : 2 ^ (2 * (-x.fives).toNat) ≤ 5 ^ (-x.fives).toNat := by
    rw [pow_mul]
    exact Nat.pow_le_pow_left (by decide) _
  show x.numerator * (5 ^ x.fives.toNat <<< x.twos.toNat)
    < x.denominator * (5 ^ (-x.fives).toNat <<< (-x.twos).toNat)
  rw [Nat.shiftLeft_eq, Nat.shiftLeft_eq]
  calc x.numerator * (5 ^ x.fives.toNat * 2 ^ x.twos.toNat)
      < 2 ^ (x.numerator.log2 + 1) * (5 ^ x.fives.toNat * 2 ^ x.twos.toNat) :=
        Nat.mul_lt_mul_of_pos_right hn (by positivity)
    _ ≤ 2 ^ (x.numerator.log2 + 1) * (2 ^ (3 * x.fives.toNat) * 2 ^ x.twos.toNat) := by gcongr
    _ = 2 ^ (x.numerator.log2 + 1 + x.twos.toNat + 3 * x.fives.toNat) := by ring
    _ ≤ 2 ^ (x.denominator.log2 + (-x.twos).toNat + 2 * (-x.fives).toNat) :=
        Nat.pow_le_pow_right (by decide) hdigits
    _ = 2 ^ x.denominator.log2 * (2 ^ (2 * (-x.fives).toNat) * 2 ^ (-x.twos).toNat) := by ring
    _ ≤ x.denominator * (5 ^ (-x.fives).toNat * 2 ^ (-x.twos).toNat) := by
        gcongr
        exact Nat.log2_self_le (Nat.pos_iff_ne_zero.1 hd)

/-- **The whole part is that of the fraction written out**, whether it is written out or not. -/
theorem truncate_eq (x : Exact) :
    x.truncate = Binary64.signed x.negative (x.fraction.1 / x.fraction.2) := by
  rw [truncate]
  split
  · rename_i htiny
    have hquotient : x.fraction.1 / x.fraction.2 = 0 := by
      rcases Nat.eq_zero_or_pos x.denominator with hd | hd
      · rw [fraction, hd, zero_mul, Nat.div_zero]
      · exact Nat.div_eq_of_lt (fraction_lt htiny hd)
    rw [hquotient]
    cases x.negative <;> rfl
  · rfl

theorem div_eq_div_of_mul_eq {n d a b : Nat} (hb : 0 < b) (hd : 0 < d) (h : n * b = a * d) :
    n / d = a / b := by
  rw [← Nat.mul_div_mul_right n d hb, h, Nat.mul_comm d b, Nat.mul_div_mul_right a b hd]

theorem fraction_make {n : Nat} (hn : 0 < n) (negative : Bool) (e : Int) :
    (make negative n 1 e e).fraction.1 * 10 ^ (-e).toNat
      = n * 10 ^ e.toNat * (make negative n 1 e e).fraction.2 := by
  have hof := (Factored.isOf_of hn).eq
  rw [make, if_neg (Nat.pos_iff_ne_zero.1 hn)]
  simp only [fraction, Nat.gcd_one_right, Nat.div_one, Factored.of_one, Nat.shiftLeft_eq,
    Int.sub_zero, Nat.cast_zero, one_mul, Nat.pow_eq]
  generalize Factored.of n = f at hof ⊢
  have hten : ∀ k : Nat, 10 ^ k = 5 ^ k * 2 ^ k := fun k => Nat.mul_pow 5 2 k
  -- an exponent is either above or below the line, so each prime is moved across on its own
  have hfives : 5 ^ (e + f.fives).toNat * 5 ^ (-e).toNat
      = 5 ^ f.fives * 5 ^ e.toNat * 5 ^ (-(e + f.fives)).toNat := by
    rw [← pow_add, ← pow_add, ← pow_add]
    congr 1
    omega
  have htwos : 2 ^ (e + f.twos).toNat * 2 ^ (-e).toNat
      = 2 ^ f.twos * 2 ^ e.toNat * 2 ^ (-(e + f.twos)).toNat := by
    rw [← pow_add, ← pow_add, ← pow_add]
    congr 1
    omega
  rw [hof, hten, hten]
  calc f.rest * (5 ^ (e + f.fives).toNat * 2 ^ (e + f.twos).toNat)
          * (5 ^ (-e).toNat * 2 ^ (-e).toNat)
      = f.rest * (5 ^ (e + f.fives).toNat * 5 ^ (-e).toNat)
          * (2 ^ (e + f.twos).toNat * 2 ^ (-e).toNat) := by ring
    _ = f.rest * 5 ^ f.fives * 2 ^ f.twos * (5 ^ e.toNat * 2 ^ e.toNat)
          * (5 ^ (-(e + f.fives)).toNat * 2 ^ (-(e + f.twos)).toNat) := by
        rw [hfives, htwos]
        ring

theorem fraction_pos {n : Nat} (hn : 0 < n) (negative : Bool) (e : Int) :
    0 < (make negative n 1 e e).fraction.2 := by
  rw [make, if_neg (Nat.pos_iff_ne_zero.1 hn)]
  simp only [fraction, Nat.gcd_one_right, Nat.div_one, Factored.of_one, Nat.shiftLeft_eq, one_mul,
    Nat.pow_eq]
  positivity

theorem signed_mul_div (c : Int) (a b : Nat) :
    Binary64.signed (decide (c < 0)) (c.natAbs * a / b) = (c * a).tdiv b := by
  obtain ⟨m, rfl | rfl⟩ := c.eq_nat_or_neg
  · have hsign : decide ((m : Int) < 0) = false := decide_eq_false (by omega)
    rw [hsign, Int.natAbs_natCast]
    rfl
  · rw [Int.natAbs_neg, Int.natAbs_natCast, Int.neg_mul, Int.neg_tdiv]
    rcases Nat.eq_zero_or_pos m with rfl | hm
    · simp [Binary64.signed]
    · have hsign : decide (-(m : Int) < 0) = true := decide_eq_true (by omega)
      rw [hsign]
      rfl

/-- **The whole part of a decimal number**, whatever its exponent. -/
theorem truncate_ofDecimal (c e : Int) :
    (ofDecimal c e).truncate = (c * 10 ^ e.toNat).tdiv (10 ^ (-e).toNat) := by
  rcases Nat.eq_zero_or_pos c.natAbs with hc | hc
  · obtain rfl := Int.natAbs_eq_zero.1 hc
    have hzero : ofDecimal 0 e = zero := rfl
    rw [hzero, truncate_eq, Int.zero_mul, Int.zero_tdiv]
    rfl
  · have hquotient : (ofDecimal c e).fraction.1 / (ofDecimal c e).fraction.2
        = c.natAbs * 10 ^ e.toNat / 10 ^ (-e).toNat :=
      div_eq_div_of_mul_eq (by positivity) (fraction_pos hc _ e) (fraction_make hc _ e)
    have hnegative : (ofDecimal c e).negative = decide (c < 0) := by
      rw [ofDecimal, make, if_neg (Nat.pos_iff_ne_zero.1 hc)]
    rw [truncate_eq, hquotient, hnegative, signed_mul_div]
    push_cast
    rfl

example : (ofDecimal 1 (-200001)).truncate = 0 := by decide
example : (ofDecimal (-12345) (-2)).truncate = -123 := by decide

end Exact

end DeviceTrust
