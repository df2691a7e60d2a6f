import CalibratedSweep.Proofs.Double.Rounding
/-!
The double nearest to a number, where an exact half goes to the even mantissa and the exponent has no
upper end. Rounding is monotone, leaves doubles alone and errs by half a unit of the last place at most.
-/

namespace CalibratedSweep.Double

open Float.Model (Format UnpackedFloat totalExponent)
open Float.Model.UnpackedFloat

section WholeNumbers

variable {q r : ℚ} {n : ℕ}

def roundEven (q : ℚ) : ℕ :=
  if q < ⌊q⌋₊ + 1 / 2 then ⌊q⌋₊ else if ⌊q⌋₊ + 1 / 2 < q then ⌊q⌋₊ + 1 else ⌊q⌋₊ + ⌊q⌋₊ % 2

theorem roundEven_eq (hlo : n ≤ q) (hhi : q < n + 1) :
    roundEven q = if q < n + 1 / 2 then n else if n + 1 / 2 < q then n + 1 else n + n % 2 := by
  have hfloor : ⌊q⌋₊ = n := (Nat.floor_eq_iff (n.cast_nonneg.trans hlo)).mpr ⟨hlo, hhi⟩
  rw [roundEven, hfloor]

theorem roundEven_bounds (q : ℚ) : ⌊q⌋₊ ≤ roundEven q ∧ roundEven q ≤ ⌊q⌋₊ + 1 := by
  unfold roundEven
  split_ifs <;> omega

theorem roundEven_natCast (n : ℕ) : roundEven n = n := by
  rw [roundEven_eq le_rfl (by linarith), if_pos (by linarith)]

theorem roundEven_mono (h : q ≤ r) : roundEven q ≤ roundEven r := by
  obtain hlt | hsame := (Nat.floor_mono h).lt_or_eq
  · calc roundEven q ≤ ⌊q⌋₊ + 1 := (roundEven_bounds q).2
      _ ≤ ⌊r⌋₊ := hlt
      _ ≤ roundEven r := (roundEven_bounds r).1
  · -- Between the same whole numbers it is the half that decides.
    unfold roundEven
    rw [hsame]
    split_ifs <;> first | omega | linarith

theorem abs_roundEven_sub_le (hq : 0 ≤ q) : |(roundEven q : ℚ) - q| ≤ 1 / 2 := by
  have hlo := Nat.floor_le hq
  have hhi := Nat.lt_floor_add_one q
  have hodd : ((⌊q⌋₊ % 2 : ℕ) : ℚ) ≤ 1 := by exact_mod_cast Nat.le_of_lt_succ (Nat.mod_lt _ two_pos)
  have heven : (0 : ℚ) ≤ (⌊q⌋₊ % 2 : ℕ) := Nat.cast_nonneg _
  unfold roundEven
  rw [abs_le]
  split_ifs <;> push_cast <;> constructor <;> linarith

theorem roundEven_eq_of_abs_lt (hq : 0 ≤ q) (h : |q - n| < 1 / 2) : roundEven q = n := by
  obtain ⟨hlo, hhi⟩ := abs_le.mp (abs_roundEven_sub_le hq)
  obtain ⟨hlo', hhi'⟩ := abs_lt.mp h
  have hupper : (roundEven q : ℚ) < n + 1 := by linarith
  have hlower : (n : ℚ) < roundEven q + 1 := by linarith
  have hle : roundEven q < n + 1 := by exact_mod_cast hupper
  have hge : n < roundEven q + 1 := by exact_mod_cast hlower
  omega

end WholeNumbers

section Cuts

variable {v : ℚ} {m : ℕ} {e : ℤ} {a : Accuracy}

/-- `v` is `m * 2 ^ e` and a rest, which is compared with half a unit. -/
def Cut (v : ℚ) (m : ℕ) (e : ℤ) : Accuracy → Prop
  | .exact => v = m * 2 ^ e
  | .inexact .lt => m * 2 ^ e < v ∧ v < (m + 1 / 2) * 2 ^ e
  | .inexact .eq => v = (m + 1 / 2) * 2 ^ e
  | .inexact .gt => (m + 1 / 2) * 2 ^ e < v ∧ v < (m + 1) * 2 ^ e

theorem Cut.approximates (h : Cut v m e a) : Approximates v m e a := by
  have hpos := two_zpow_pos e
  rcases a with _ | _ | _ | _
  · exact h
  · exact ⟨h.1, by linarith [h.2]⟩
  · rw [Cut] at h
    exact ⟨by linarith, by linarith⟩
  · exact ⟨by linarith [h.1], h.2⟩

theorem Cut.bounds (h : Cut v m e a) : m * 2 ^ e ≤ v ∧ v < (m + 1) * 2 ^ e := by
  have hpos := two_zpow_pos e
  cases a with
  | exact =>
    rw [Cut] at h
    constructor <;> linarith
  | inexact o =>
    obtain ⟨hlo, hhi⟩ := h.approximates
    exact ⟨hlo.le, hhi⟩

theorem Cut.ofMantissaAndAccuracy (h : Cut v m e a) :
    Cut v (ExtendedMantissa.ofMantissaAndAccuracy m a).mantissa e
      (ExtendedMantissa.ofMantissaAndAccuracy m a).accuracy := by
  rcases a with _ | _ | _ | _ <;> exact h

theorem Cut.shiftRightOne {em : ExtendedMantissa} (h : Cut v em.mantissa e em.accuracy) :
    Cut v em.shiftRightOne.mantissa (e + 1) em.shiftRightOne.accuracy := by
  have hpos := two_zpow_pos e
  have hnext := two_zpow_succ e
  obtain ⟨m, round, sticky⟩ := em
  have hhalf := mul_eq_halves m (2 ^ e)
  -- The bit that is shifted out is the new half, the earlier bits are the rest of it.
  rcases Nat.mod_two_eq_zero_or_one m with hbit | hbit <;> rw [hbit] at hhalf <;>
    cases round <;> cases sticky <;>
    simp [Cut, ExtendedMantissa.shiftRightOne, ExtendedMantissa.accuracy, hbit, hnext,
      add_mul] at h hhalf ⊢
  all_goals first | linarith | exact ⟨by linarith, by linarith⟩

theorem Cut.shiftRight {em : ExtendedMantissa} (h : Cut v em.mantissa e em.accuracy) (k : ℕ) :
    Cut v (em >>> k).mantissa (e + k) (em >>> k).accuracy := by
  induction k with
  | zero =>
    rw [Nat.cast_zero, add_zero]
    exact h
  | succ k ih =>
    rw [Nat.cast_succ, ← add_assoc]
    exact ih.shiftRightOne

theorem Cut.roundToNearestEven_eq (h : Cut v m e a) :
    a.roundToNearestEven m = roundEven (v / 2 ^ e) := by
  have hpos := two_zpow_pos e
  obtain ⟨hlo, hhi⟩ := h.bounds
  rw [← le_div_iff₀ hpos] at hlo
  rw [← div_lt_iff₀ hpos] at hhi
  rw [roundEven_eq hlo hhi]
  rcases a with _ | _ | _ | _
  · rw [Cut, ← div_eq_iff hpos.ne'] at h
    rw [h, if_pos (by linarith)]
    rfl
  · rw [Cut, ← div_lt_iff₀ hpos] at h
    rw [if_pos h.2]
    rfl
  · rw [Cut, ← div_eq_iff hpos.ne'] at h
    rw [h, if_neg (lt_irrefl _), if_neg (lt_irrefl _)]
    rfl
  · rw [Cut, ← lt_div_iff₀ hpos] at h
    rw [if_neg h.1.not_gt, if_pos h.1]
    rfl

end Cuts

section Nearest

variable {v w : ℚ}

/-- The exponent of the last place of the doubles around `v`. -/
def place (v : ℚ) : ℤ := max (Int.log 2 v - 52) (-1074)

/-- The double nearest to `v`, if exponents had no upper end. -/
def nearest (v : ℚ) : ℚ := roundEven (v / 2 ^ place v) * 2 ^ place v

theorem nearest_zero : nearest 0 = 0 := by
  have hround : roundEven 0 = 0 := by exact_mod_cast roundEven_natCast 0
  rw [nearest, zero_div, hround, Nat.cast_zero, zero_mul]

theorem nearest_nonneg (v : ℚ) : 0 ≤ nearest v :=
  mul_nonneg (Nat.cast_nonneg _) (two_zpow_pos _).le

theorem lt_two_pow_place (v : ℚ) : v < 2 ^ 53 * 2 ^ place v := by
  calc v < 2 ^ (Int.log 2 v + 1) := Int.lt_zpow_succ_log_self one_lt_two v
    _ ≤ 2 ^ (53 + place v) := zpow_le_zpow_right₀ one_le_two (by unfold place; omega)
    _ = 2 ^ 53 * 2 ^ place v := by rw [zpow_add₀ two_ne_zero]; rfl

theorem two_pow_place_le (hv : 0 < v) (hp : -1074 < place v) : 2 ^ 52 * 2 ^ place v ≤ v := by
  have hplace : 52 + place v = Int.log 2 v := by unfold place at *; omega
  calc (2 : ℚ) ^ 52 * 2 ^ place v = 2 ^ (52 + place v) := by rw [zpow_add₀ two_ne_zero]; rfl
    _ = 2 ^ Int.log 2 v := by rw [hplace]
    _ ≤ v := Int.zpow_log_le_self one_lt_two hv

theorem place_mono (hv : 0 < v) (h : v ≤ w) : place v ≤ place w := by
  have hlog := Int.log_mono_right (b := 2) hv h
  unfold place
  omega

theorem roundEven_place_le (v : ℚ) : roundEven (v / 2 ^ place v) ≤ 2 ^ 53 := by
  have hpos := two_zpow_pos (place v)
  have hle : v / 2 ^ place v ≤ (2 ^ 53 : ℕ) := by
    rw [div_le_iff₀ hpos]
    exact_mod_cast (lt_two_pow_place v).le
  exact (roundEven_mono hle).trans_eq (roundEven_natCast _)

theorem nearest_mono (hv : 0 ≤ v) (h : v ≤ w) : nearest v ≤ nearest w := by
  obtain rfl | hv := hv.eq_or_lt
  · rw [nearest_zero]
    exact nearest_nonneg w
  have hpos := two_zpow_pos (place v)
  obtain hlt | hsame := (place_mono hv h).lt_or_eq
  · -- The numbers lie on both sides of a power of two.
    have hlow : -1074 < place w := (le_max_right _ _).trans_lt hlt
    have hbig : 2 ^ 52 ≤ roundEven (w / 2 ^ place w) := by
      have hle : ((2 ^ 52 : ℕ) : ℚ) ≤ w / 2 ^ place w := by
        rw [le_div_iff₀ (two_zpow_pos _)]
        exact_mod_cast two_pow_place_le (hv.trans_le h) hlow
      exact (roundEven_natCast _).symm.trans_le (roundEven_mono hle)
    have hsmall : (roundEven (v / 2 ^ place v) : ℚ) ≤ 2 ^ 53 := by exact_mod_cast roundEven_place_le v
    have hbig' : (2 : ℚ) ^ 52 ≤ roundEven (w / 2 ^ place w) := by exact_mod_cast hbig
    have hnext : (2 : ℚ) * 2 ^ place v ≤ 2 ^ place w := by
      rw [← two_zpow_succ]
      exact zpow_le_zpow_right₀ one_le_two (by omega)
    calc nearest v ≤ 2 ^ 53 * 2 ^ place v := mul_le_mul_of_nonneg_right hsmall hpos.le
      _ = 2 ^ 52 * (2 * 2 ^ place v) := by ring
      _ ≤ nearest w := mul_le_mul hbig' hnext (by positivity) (Nat.cast_nonneg _)
  · have hround : roundEven (v / 2 ^ place v) ≤ roundEven (w / 2 ^ place v) :=
      roundEven_mono (div_le_div_of_nonneg_right h hpos.le)
    unfold nearest
    rw [← hsame]
    exact mul_le_mul_of_nonneg_right (by exact_mod_cast hround) hpos.le

theorem Representable.nonneg (h : Representable v) : 0 ≤ v := by
  obtain ⟨m, e, -, -, rfl⟩ := h
  exact mul_nonneg m.cast_nonneg (two_zpow_pos e).le

theorem nearest_of_representable (h : Representable v) : nearest v = v := by
  have hlow : -1074 ≤ place v := le_max_right _ _
  have hpos := two_zpow_pos (place v)
  obtain ⟨n, hn⟩ | ⟨hp, hlt⟩ := representable_cases h hlow
  · rw [← div_eq_iff hpos.ne'] at hn
    rw [nearest, hn, roundEven_natCast, ← hn, div_mul_cancel₀ v hpos.ne']
  · obtain hv | hv := h.nonneg.eq_or_lt
    · rw [← hv, nearest_zero]
    · exact absurd (two_pow_place_le hv hp) (not_le.mpr hlt)

theorem representable_nearest (v : ℚ) : Representable (nearest v) := by
  obtain hlt | heq := (roundEven_place_le v).lt_or_eq
  · exact ⟨_, _, hlt, le_max_right _ _, rfl⟩
  · refine ⟨2 ^ 52, place v + 1, by norm_num, by unfold place; omega, ?_⟩
    rw [nearest, heq, two_zpow_succ]
    push_cast
    ring

theorem nearest_le (hv : 0 ≤ v) (hw : Representable w) (h : v ≤ w) : nearest v ≤ w :=
  (nearest_mono hv h).trans_eq (nearest_of_representable hw)

theorem le_nearest (hv : Representable v) (h : v ≤ w) : v ≤ nearest w :=
  (nearest_of_representable hv).symm.trans_le (nearest_mono hv.nonneg h)

theorem abs_nearest_sub_le (hv : 0 ≤ v) : |nearest v - v| ≤ 2 ^ place v / 2 := by
  have hpos := two_zpow_pos (place v)
  have hround := abs_roundEven_sub_le (div_nonneg hv hpos.le)
  have hsplit : nearest v - v = (roundEven (v / 2 ^ place v) - v / 2 ^ place v) * 2 ^ place v := by
    rw [nearest, sub_mul, div_mul_cancel₀ v hpos.ne']
  rw [hsplit, abs_mul, abs_of_pos hpos]
  linarith [mul_le_mul_of_nonneg_right hround hpos.le]

theorem abs_nearest_sub_lt_mul (hv : 2 ^ (-1022 : ℤ) ≤ v) : |nearest v - v| < v / 2 ^ 53 := by
  have hpos : 0 < v := (two_zpow_pos _).trans_le hv
  have hlog : -1022 ≤ Int.log 2 v := (Int.zpow_le_iff_le_log one_lt_two hpos).mp (by exact_mod_cast hv)
  have hplace : place v = Int.log 2 v - 52 := by unfold place; omega
  have hle : (2 : ℚ) ^ 52 * 2 ^ place v ≤ v := by
    obtain hlt | heq := (by omega : -1074 < place v ∨ place v = -1074)
    · exact two_pow_place_le hpos hlt
    · have hleast : (2 : ℚ) ^ 52 * 2 ^ (-1074 : ℤ) = 2 ^ (-1022 : ℤ) :=
        (zpow_add₀ two_ne_zero 52 (-1074)).symm
      rw [heq, hleast]
      exact hv
  obtain hlt | heq := hle.lt_or_eq
  · refine (abs_nearest_sub_le hpos.le).trans_lt ?_
    rw [lt_div_iff₀ (by positivity)]
    calc (2 : ℚ) ^ place v / 2 * 2 ^ 53 = 2 ^ 52 * 2 ^ place v := by ring
      _ < v := hlt
  · have hexact : Representable v :=
      ⟨2 ^ 52, place v, by norm_num, le_max_right _ _, by rw [Nat.cast_pow, Nat.cast_ofNat, heq]⟩
    rw [nearest_of_representable hexact, sub_self, abs_zero]
    positivity

/-- A sum is in proportion; where the doubles lie closest together it is not rounded at all. -/
theorem abs_nearest_add_sub_le (hv : Representable v) (hw : Representable w) :
    |nearest (v + w) - (v + w)| ≤ (v + w) / 2 ^ 53 := by
  obtain hlarge | hsmall := le_or_gt (2 ^ (-1022 : ℤ)) (v + w)
  · exact (abs_nearest_sub_lt_mul hlarge).le
  have hleast {u : ℚ} (hu : Representable u) : ∃ n : ℕ, u = n * 2 ^ (-1074 : ℤ) :=
    (representable_cases hu le_rfl).resolve_right fun h => lt_irrefl _ h.1
  obtain ⟨i, hi⟩ := hleast hv
  obtain ⟨j, hj⟩ := hleast hw
  have hsum : v + w = (i + j : ℕ) * 2 ^ (-1074 : ℤ) := by
    rw [hi, hj, Nat.cast_add, add_mul]
  have hcount : i + j < 2 ^ 53 := by
    have hsplit : (2 : ℚ) ^ (-1022 : ℤ) = 2 ^ 52 * 2 ^ (-1074 : ℤ) := zpow_add₀ two_ne_zero 52 (-1074)
    rw [hsum, hsplit, mul_lt_mul_iff_left₀ (two_zpow_pos _)] at hsmall
    have hcount' : i + j < 2 ^ 52 := by exact_mod_cast hsmall
    omega
  have hexact : Representable (v + w) := ⟨i + j, -1074, hcount, le_rfl, hsum⟩
  rw [nearest_of_representable hexact, sub_self, abs_zero]
  exact div_nonneg hexact.nonneg (by positivity)

theorem abs_nearest_sub_le_abs (hv : Representable v) (hw : 0 ≤ w) : |nearest w - w| ≤ |w - v| := by
  have hpos := two_zpow_pos (place w)
  have hlowest : -1074 ≤ place w := le_max_right _ _
  -- Of what lies at whole places, something is as close as `v`.
  obtain ⟨n, hn⟩ : ∃ n : ℕ, |w - n * 2 ^ place w| ≤ |w - v| := by
    obtain ⟨n, hn⟩ | ⟨hp, hlt⟩ := representable_cases hv hlowest
    · exact ⟨n, by rw [← hn]⟩
    · obtain hle | hle := le_or_gt w v
      · obtain rfl | hw := hw.eq_or_lt
        · exact ⟨0, by simp⟩
        · exact absurd ((two_pow_place_le hw hp).trans hle) hlt.not_ge
      · refine ⟨2 ^ 52, ?_⟩
        have hlow := two_pow_place_le (hv.nonneg.trans_lt hle) hp
        rw [Nat.cast_pow, Nat.cast_ofNat, abs_of_nonneg (sub_nonneg.mpr hlow), abs_of_pos (sub_pos.mpr hle)]
        linarith
  obtain hnear | hfar := lt_or_ge |w - n * 2 ^ place w| (2 ^ place w / 2)
  · have hround : roundEven (w / 2 ^ place w) = n := by
      refine roundEven_eq_of_abs_lt (div_nonneg hw hpos.le) ?_
      rw [div_sub' hpos.ne', abs_div, abs_of_pos hpos, div_lt_iff₀ hpos, mul_comm _ (n : ℚ)]
      linarith
    rw [nearest, hround, abs_sub_comm]
    exact hn
  · exact (abs_nearest_sub_le hw).trans (hfar.trans hn)

theorem nearest_le_two_mul (hw : 0 ≤ w) : nearest w ≤ 2 * w := by
  have hzero : Representable 0 := ⟨0, 0, by norm_num, by norm_num, by simp⟩
  have hclosest := abs_nearest_sub_le_abs hzero hw
  rw [sub_zero, abs_of_nonneg hw] at hclosest
  linarith [le_abs_self (nearest w - w)]

theorem abs_nearest_sub_le_two_mul (hv : Representable v) (hw : 0 ≤ w) :
    |nearest w - v| ≤ 2 * |w - v| := by
  have hclosest := abs_nearest_sub_le_abs hv hw
  calc |nearest w - v| ≤ |nearest w - w| + |w - v| := abs_sub_le _ _ _
    _ ≤ 2 * |w - v| := by linarith

end Nearest

section Rounded

variable {v : ℚ} {m : ℕ} {e : ℤ} {a : Accuracy}

theorem target_eq_place (hc : Cut v m e a) (hf : Fine m e) (hv : 0 < v) : target m e = place v := by
  obtain ⟨hlo, hhi⟩ := hc.bounds
  unfold target place
  by_cases hm : m = 0
  · subst hm
    have hbits : e ≤ -1074 := by
      unfold Fine at hf
      simpa using hf
    have hlog : Int.log 2 v < e := (Int.lt_zpow_iff_log_lt one_lt_two hv).mp (by simpa using hhi)
    simp
    omega
  · have hlog : Int.log 2 v = m.log2 + e := by
      have hlo' : (2 : ℚ) ^ (m.log2 + e : ℤ) ≤ v := by
        rw [zpow_add₀ two_ne_zero, zpow_natCast]
        have hbit : (2 : ℚ) ^ m.log2 ≤ m := by exact_mod_cast Nat.log2_self_le hm
        exact (mul_le_mul_of_nonneg_right hbit (two_zpow_pos e).le).trans hlo
      have hhi' : v < (2 : ℚ) ^ (m.log2 + e + 1 : ℤ) := by
        rw [add_right_comm, zpow_add₀ two_ne_zero]
        have hbit : (m : ℚ) + 1 ≤ 2 ^ (m.log2 + 1 : ℤ) := by
          exact_mod_cast Nat.lt_log2_self (n := m)
        exact hhi.trans_le (mul_le_mul_of_nonneg_right hbit (two_zpow_pos e).le)
      have h₁ := (Int.zpow_le_iff_le_log one_lt_two hv).mp (by exact_mod_cast hlo')
      have h₂ := (Int.lt_zpow_iff_log_lt one_lt_two hv).mp (by exact_mod_cast hhi')
      omega
    rw [hlog]

theorem magnitude_roundWithAccuracy_eq_nearest (s : Sign) (hc : Cut v m e a) (hf : Fine m e) :
    magnitude (roundWithAccuracy Format.binary64 s m e a) = nearest v := by
  have hsum : e + (target m e - e).toNat = target m e := by
    have hle := le_target hf
    omega
  have hcut := hc.ofMantissaAndAccuracy.shiftRight (target m e - e).toNat
  rw [hsum] at hcut
  have hround : rounded m e a = roundEven (v / 2 ^ target m e) := hcut.roundToNearestEven_eq
  rw [magnitude_roundWithAccuracy s a hf, hround]
  obtain hv | hv := ((mul_nonneg m.cast_nonneg (two_zpow_pos e).le).trans hc.bounds.1).eq_or_lt
  · have hzero : roundEven 0 = 0 := by exact_mod_cast roundEven_natCast 0
    rw [← hv, nearest_zero, zero_div, hzero, Nat.cast_zero, zero_mul]
  · rw [target_eq_place hc hf hv, nearest]

structure RoundedToNearest (s : Sign) (v : ℚ) (u : UnpackedFloat) : Prop extends Rounded s v u where
  magnitude : magnitude u = nearest v

theorem roundedToNearest_roundWithAccuracy (s : Sign) (hc : Cut v m e a) (hf : Fine m e) :
    RoundedToNearest s v (roundWithAccuracy Format.binary64 s m e a) :=
  ⟨rounded_roundWithAccuracy s hc.approximates hf, magnitude_roundWithAccuracy_eq_nearest s hc hf⟩

end Rounded

end CalibratedSweep.Double
