import CalibratedSweep.Proofs.Double.Packing
/-!
Rounding goes to one of the two doubles next to the number. So it does not cross a double: a number
that is at most some double is rounded to at most this double, and likewise from below.
-/

namespace CalibratedSweep.Double

open Float.Model (Format UnpackedFloat totalExponent)
open Float.Model.UnpackedFloat

def magnitude : UnpackedFloat → ℚ
  | .finite _ m e _ => m * 2 ^ e
  | _ => 0

/-- The sizes that doubles have, and those that they would have with larger exponents. -/
def Representable (b : ℚ) : Prop := ∃ m : ℕ, ∃ e : ℤ, m < 2 ^ 53 ∧ -1074 ≤ e ∧ b = m * 2 ^ e

/-- `m * 2 ^ e` cut off from `v`, exactly or not. -/
def Approximates (v : ℚ) (m : ℕ) (e : ℤ) : Accuracy → Prop
  | .exact => v = m * 2 ^ e
  | .inexact _ => m * 2 ^ e < v ∧ v < (m + 1) * 2 ^ e

theorem two_zpow_pos (e : ℤ) : (0 : ℚ) < 2 ^ e := zpow_pos two_pos e

theorem two_zpow_succ (e : ℤ) : (2 : ℚ) ^ (e + 1) = 2 * 2 ^ e := by
  rw [zpow_add_one₀ two_ne_zero, mul_comm]

theorem mul_eq_halves (m : ℕ) (u : ℚ) : (m : ℚ) * u = (m / 2 : ℕ) * (2 * u) + (m % 2 : ℕ) * u := by
  have hdiv : (m : ℚ) = 2 * (m / 2 : ℕ) + (m % 2 : ℕ) := by
    exact_mod_cast (Nat.div_add_mod m 2).symm
  rw [hdiv]
  ring

theorem mantissa_ofMantissaAndAccuracy (m : ℕ) (a : Accuracy) :
    (ExtendedMantissa.ofMantissaAndAccuracy m a).mantissa = m := by
  rcases a with _ | _ | _ | _ <;> rfl

theorem approximates_ofMantissaAndAccuracy {v : ℚ} {m : ℕ} {e : ℤ} {a : Accuracy}
    (h : Approximates v m e a) :
    Approximates v (ExtendedMantissa.ofMantissaAndAccuracy m a).mantissa e
      (ExtendedMantissa.ofMantissaAndAccuracy m a).accuracy := by
  cases a with
  | exact => exact h
  | inexact o => cases o <;> exact h

theorem Approximates.shiftRightOne {v : ℚ} {em : ExtendedMantissa} {e : ℤ}
    (h : Approximates v em.mantissa e em.accuracy) :
    Approximates v em.shiftRightOne.mantissa (e + 1) em.shiftRightOne.accuracy := by
  have hpos := two_zpow_pos e
  have hnext := two_zpow_succ e
  obtain ⟨m, round, sticky⟩ := em
  have hhalf := mul_eq_halves m (2 ^ e)
  -- The bit that is shifted out decides together with the earlier ones whether the rest is exact.
  rcases Nat.mod_two_eq_zero_or_one m with hbit | hbit <;> rw [hbit] at hhalf <;>
    cases round <;> cases sticky <;>
    simp [Approximates, ExtendedMantissa.shiftRightOne, ExtendedMantissa.accuracy, hbit, hnext,
      add_mul] at h hhalf ⊢
  all_goals first | linarith | exact ⟨by linarith, by linarith⟩

theorem Approximates.shiftRight {v : ℚ} {em : ExtendedMantissa} {e : ℤ}
    (h : Approximates v em.mantissa e em.accuracy) (k : ℕ) :
    Approximates v (em >>> k).mantissa (e + k) (em >>> k).accuracy := by
  induction k with
  | zero =>
    rw [Nat.cast_zero, add_zero]
    exact h
  | succ k ih =>
    rw [Nat.cast_succ, ← add_assoc]
    exact ih.shiftRightOne

theorem mantissa_shiftRight (em : ExtendedMantissa) (k : ℕ) :
    (em >>> k).mantissa = em.mantissa / 2 ^ k := by
  induction k with
  | zero => exact (Nat.div_one _).symm
  | succ k ih =>
    have hstep : (em >>> (k + 1)).mantissa = (em >>> k).mantissa / 2 := rfl
    rw [hstep, ih, Nat.div_div_eq_div_mul, pow_succ]

section Nearest

variable {v : ℚ} {m : ℕ} {e : ℤ} {a : Accuracy}

theorem roundToNearestEven_bounds (m : ℕ) (a : Accuracy) :
    m ≤ a.roundToNearestEven m ∧ a.roundToNearestEven m ≤ m + 1 := by
  rcases a with _ | _ | _ | _ <;> simp only [Accuracy.roundToNearestEven] <;> omega

theorem Approximates.le (h : Approximates v m e a) : m * 2 ^ e ≤ v := by
  cases a with
  | exact => exact h.ge
  | inexact o => exact h.1.le

/-- The rounded mantissa does not cross a whole number. -/
theorem Approximates.round_le (h : Approximates v m e a) {n : ℕ} (hv : v ≤ n * 2 ^ e) :
    a.roundToNearestEven m ≤ n := by
  have hpos := two_zpow_pos e
  cases a with
  | exact =>
    rw [h] at hv
    exact_mod_cast le_of_mul_le_mul_right hv hpos
  | inexact o =>
    have hlt : m < n := by exact_mod_cast lt_of_mul_lt_mul_right (h.1.trans_le hv) hpos.le
    have hup := (roundToNearestEven_bounds m (.inexact o)).2
    omega

theorem Approximates.le_round (h : Approximates v m e a) {n : ℕ} (hv : n * 2 ^ e ≤ v) :
    n ≤ a.roundToNearestEven m := by
  have hpos := two_zpow_pos e
  have hlow := (roundToNearestEven_bounds m a).1
  cases a with
  | exact =>
    rw [h] at hv
    exact_mod_cast le_of_mul_le_mul_right hv hpos
  | inexact o =>
    have hlt : n < m + 1 := by exact_mod_cast lt_of_mul_lt_mul_right (hv.trans_lt h.2) hpos.le
    omega

end Nearest

def target (m : ℕ) (e : ℤ) : ℤ := max (m.log2 + e - 52) (-1074)

theorem targetExponent_eq (m : ℕ) (e : ℤ) :
    Format.binary64.targetExponent (totalExponent m e) = target m e := by
  simp only [Format.targetExponent, totalExponent, Format.mantissaBits, Format.minExponent, target]
  norm_num
  omega

/-- The mantissa that a number is rounded to, before a carry into a further bit. -/
def rounded (m : ℕ) (e : ℤ) (a : Accuracy) : ℕ :=
  (ExtendedMantissa.ofMantissaAndAccuracy m a >>> (target m e - e).toNat).roundedMantissa

theorem log2_le_of_lt {r : ℕ} (h : r < 2 ^ 53) : r.log2 ≤ 52 := by
  by_cases hr : r = 0
  · rw [hr]
    decide
  · have hlog := (Nat.log2_lt hr).mpr h
    omega

theorem shiftToTargetExponent_of_lt {r : ℕ} (hr : r < 2 ^ 53) {t : ℤ} (ht : -1074 ≤ t) :
    shiftToTargetExponent Format.binary64 r t .exact = (⟨r, false, false⟩, t) := by
  have hlog := log2_le_of_lt hr
  have hshift : (target r t - t).toNat = 0 := by
    unfold target
    omega
  rw [shiftToTargetExponent, targetExponent_eq, shiftToExponent, hshift, Nat.cast_zero, add_zero]
  rfl

theorem shiftToTargetExponent_carry {t : ℤ} (ht : -1074 ≤ t) :
    shiftToTargetExponent Format.binary64 (2 ^ 53) t .exact = (⟨2 ^ 52, false, false⟩, t + 1) := by
  have hshift : (target (2 ^ 53) t - t).toNat = 1 := by
    rw [target, Nat.log2_two_pow]
    omega
  rw [shiftToTargetExponent, targetExponent_eq, shiftToExponent, hshift]
  rfl

section Round

variable {m : ℕ} {e : ℤ}

/-- The mantissa has enough bits, or as many as the smallest doubles have. -/
def Fine (m : ℕ) (e : ℤ) : Prop := 52 ≤ m.log2 ∨ e ≤ -1074

theorem le_target (hf : Fine m e) : e ≤ target m e := by
  unfold Fine at hf
  unfold target
  omega

theorem cut_lt (m : ℕ) (e : ℤ) : m / 2 ^ (target m e - e).toNat < 2 ^ 53 := by
  rw [Nat.div_lt_iff_lt_mul (by positivity), ← pow_add]
  refine Nat.lt_log2_self.trans_le (Nat.pow_le_pow_right two_pos ?_)
  unfold target
  omega

theorem le_cut (hf : Fine m e) (ht : -1074 < target m e) :
    2 ^ 52 ≤ m / 2 ^ (target m e - e).toNat := by
  have hm : m ≠ 0 := by
    rintro rfl
    unfold Fine target at *
    simp at hf ht
    omega
  rw [Nat.le_div_iff_mul_le (by positivity), ← pow_add]
  refine (Nat.pow_le_pow_right two_pos ?_).trans (Nat.log2_self_le hm)
  unfold Fine target at *
  omega

theorem rounded_bounds (m : ℕ) (e : ℤ) (a : Accuracy) :
    m / 2 ^ (target m e - e).toNat ≤ rounded m e a ∧
      rounded m e a ≤ m / 2 ^ (target m e - e).toNat + 1 := by
  have hcut : (ExtendedMantissa.ofMantissaAndAccuracy m a >>> (target m e - e).toNat).mantissa =
      m / 2 ^ (target m e - e).toNat := by
    rw [mantissa_shiftRight, mantissa_ofMantissaAndAccuracy]
  rw [rounded, ExtendedMantissa.roundedMantissa, hcut]
  exact roundToNearestEven_bounds _ _

theorem roundWithAccuracy_eq (s : Sign) (a : Accuracy) (hf : Fine m e) :
    roundWithAccuracy Format.binary64 s m e a =
      if h : rounded m e a = 0 then .zero s
      else if rounded m e a < 2 ^ 53 then
        .finite s (rounded m e a) (target m e) (Nat.pos_of_ne_zero h)
      else .finite s (2 ^ 52) (target m e + 1) (by positivity) := by
  have hlo : -1074 ≤ target m e := le_max_right _ _
  have hsum : e + (target m e - e).toNat = target m e := by
    have hle := le_target hf
    omega
  have hfirst : shiftToTargetExponent Format.binary64 m e a =
      (ExtendedMantissa.ofMantissaAndAccuracy m a >>> (target m e - e).toNat, target m e) := by
    rw [shiftToTargetExponent, targetExponent_eq, shiftToExponent, hsum]
  have hround : (ExtendedMantissa.ofMantissaAndAccuracy m a >>>
      (target m e - e).toNat).roundedMantissa = rounded m e a := rfl
  unfold roundWithAccuracy
  simp only [hfirst, hround]
  by_cases hr : rounded m e a < 2 ^ 53
  · simp only [shiftToTargetExponent_of_lt hr hlo, if_pos hr]
  · have hcarry : rounded m e a = 2 ^ 53 := by
      have hup := (rounded_bounds m e a).2
      have hcut := cut_lt m e
      omega
    simp only [hcarry, shiftToTargetExponent_carry hlo]
    rfl

def IsFinite (s : Sign) : UnpackedFloat → Prop
  | .zero t | .finite t _ _ _ => t = s
  | _ => False

structure Rounded (s : Sign) (v : ℚ) (u : UnpackedFloat) : Prop where
  canonical : Canonical u
  sign : IsFinite s u
  upper : ∀ b, Representable b → v ≤ b → magnitude u ≤ b
  lower : ∀ b, Representable b → b ≤ v → b ≤ magnitude u

/-- A double is a multiple of the last place of the mantissa, or smaller than all its first place. -/
theorem representable_cases {b : ℚ} (hb : Representable b) {t : ℤ} (ht : -1074 ≤ t) :
    (∃ n : ℕ, b = n * 2 ^ t) ∨ (-1074 < t ∧ b < 2 ^ 52 * 2 ^ t) := by
  obtain ⟨m, e, hm, he, rfl⟩ := hb
  by_cases het : t ≤ e
  · left
    refine ⟨m * 2 ^ (e - t).toNat, ?_⟩
    have hsplit : (2 : ℚ) ^ e = 2 ^ (e - t).toNat * 2 ^ t := by
      rw [← zpow_natCast, ← zpow_add₀ two_ne_zero]
      congr 1
      omega
    rw [hsplit]
    push_cast
    ring
  · right
    have hbits : (m : ℚ) < 2 ^ 53 := by exact_mod_cast hm
    have hnext : (2 : ℚ) * 2 ^ e ≤ 2 ^ t := by
      rw [← two_zpow_succ]
      exact zpow_le_zpow_right₀ one_le_two (by omega)
    have hpos := two_zpow_pos e
    refine ⟨by omega, ?_⟩
    calc (m : ℚ) * 2 ^ e < 2 ^ 53 * 2 ^ e := mul_lt_mul_of_pos_right hbits hpos
      _ = 2 ^ 52 * (2 * 2 ^ e) := by ring
      _ ≤ 2 ^ 52 * 2 ^ t := by gcongr

theorem magnitude_roundWithAccuracy (s : Sign) (a : Accuracy) (hf : Fine m e) :
    magnitude (roundWithAccuracy Format.binary64 s m e a) = rounded m e a * 2 ^ target m e := by
  rw [roundWithAccuracy_eq s a hf]
  split
  · rename_i hzero
    rw [hzero]
    simp [magnitude]
  · split
    · rfl
    · rename_i hr
      have hcarry : rounded m e a = 2 ^ 53 := by
        have hup := (rounded_bounds m e a).2
        have hcut := cut_lt m e
        omega
      rw [magnitude, hcarry, two_zpow_succ]
      push_cast
      ring

theorem canonical_roundWithAccuracy (s : Sign) (a : Accuracy) (hf : Fine m e) :
    Canonical (roundWithAccuracy Format.binary64 s m e a) := by
  have hlo : -1074 ≤ target m e := le_max_right _ _
  have hlow := (rounded_bounds m e a).1
  rw [roundWithAccuracy_eq s a hf]
  split
  · trivial
  · split
    · rename_i hr
      refine ⟨hr, hlo, ?_⟩
      by_cases ht : target m e = -1074
      · exact .inr ht
      · have hbit := le_cut hf (by omega)
        exact .inl (hbit.trans hlow)
    · exact ⟨by norm_num, by omega, .inl le_rfl⟩

theorem rounded_roundWithAccuracy (s : Sign) {v : ℚ} {a : Accuracy} (hv : Approximates v m e a)
    (hf : Fine m e) : Rounded s v (roundWithAccuracy Format.binary64 s m e a) := by
  have hlo : -1074 ≤ target m e := le_max_right _ _
  have hpos := two_zpow_pos (target m e)
  have hsum : e + (target m e - e).toNat = target m e := by
    have hle := le_target hf
    omega
  have hnear := (approximates_ofMantissaAndAccuracy hv).shiftRight (target m e - e).toNat
  rw [hsum] at hnear
  have hcut : (ExtendedMantissa.ofMantissaAndAccuracy m a >>> (target m e - e).toNat).mantissa =
      m / 2 ^ (target m e - e).toNat := by
    rw [mantissa_shiftRight, mantissa_ofMantissaAndAccuracy]
  have hfirst (ht : -1074 < target m e) :
      (2 : ℚ) ^ 52 * 2 ^ target m e ≤ (m / 2 ^ (target m e - e).toNat : ℕ) * 2 ^ target m e := by
    have hbit : (2 : ℚ) ^ 52 ≤ (m / 2 ^ (target m e - e).toNat : ℕ) := by
      exact_mod_cast le_cut hf ht
    exact mul_le_mul_of_nonneg_right hbit hpos.le
  -- A bound that is no multiple of the last place lies below all mantissas with their first bit.
  refine ⟨canonical_roundWithAccuracy s a hf, ?_, fun b hb hvb => ?_, fun b hb hbv => ?_⟩
  · rw [roundWithAccuracy_eq s a hf]
    split
    · exact rfl
    · split <;> exact rfl
  · rw [magnitude_roundWithAccuracy s a hf]
    obtain ⟨n, rfl⟩ | ⟨ht, hlt⟩ := representable_cases hb hlo
    · have hn : rounded m e a ≤ n := hnear.round_le hvb
      gcongr
    · have hle := hnear.le
      rw [hcut] at hle
      linarith [hfirst ht]
  · rw [magnitude_roundWithAccuracy s a hf]
    obtain ⟨n, rfl⟩ | ⟨ht, hlt⟩ := representable_cases hb hlo
    · have hn : n ≤ rounded m e a := hnear.le_round hbv
      gcongr
    · have hlow : ((m / 2 ^ (target m e - e).toNat : ℕ) : ℚ) ≤ rounded m e a := by
        exact_mod_cast (rounded_bounds m e a).1
      have hround := mul_le_mul_of_nonneg_right hlow hpos.le
      linarith [hfirst ht]

end Round

end CalibratedSweep.Double
