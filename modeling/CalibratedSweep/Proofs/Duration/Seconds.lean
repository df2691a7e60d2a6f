import CalibratedSweep.Duration.Basic
import CalibratedSweep.Proofs.Decimal.Binary

namespace CalibratedSweep.Duration

open Double

variable {x : Float} {v w : ℚ}

def ofSize (v : ℚ) : Duration := if v < 2 ^ 64 then ⟨roundEven (v * 10 ^ 9)⟩ else .longest

theorem ofFloatSeconds?_eq (h : Holds x v) :
    ofFloatSeconds? x = if v < 2 ^ 64 then some ⟨roundEven (v * 10 ^ 9)⟩ else none := by
  rw [ofFloatSeconds?, if_neg (not_lt_zero h.nonneg)]
  cases h with
  | infinite hv hx =>
    have hnone : Decimal.magnitude? x = none := by
      rw [Decimal.magnitude?_eq_none_iff, ← isFinite_parts, hx]
      rfl
    have hlarge : ¬v < 2 ^ 64 :=
      not_lt.mpr ((pow_le_pow_right₀ one_le_two (by norm_num)).trans hv)
    rw [hnone, if_neg hlarge]
  | value h =>
    obtain ⟨b, hb, hvalue⟩ := Decimal.exists_magnitude? h
    have hwhole : (b.scaled 1).1 / (b.scaled 1).2 = ⌊v⌋₊ := by
      rw [← Nat.floor_div_eq_div (K := ℚ), b.scaled_eq, Nat.cast_one, mul_one, hvalue]
    have hlarge : UInt64.size ≤ ⌊v⌋₊ ↔ ¬v < 2 ^ 64 := by
      rw [Nat.le_floor_iff h.value_nonneg, not_lt]
      norm_num
    have hround : Decimal.roundDiv .toEven (b.scaled 1000000000).1 (b.scaled 1000000000).2 =
        roundEven (v * 10 ^ 9) := by
      rw [Decimal.roundDiv_toEven (b.scaled_pos _), b.scaled_eq, hvalue]
      norm_num
    simp only [hb, hwhole, hlarge, hround, ite_not]

theorem getD_ofFloatSeconds? (h : Holds x v) : (ofFloatSeconds? x).getD .longest = ofSize v := by
  rw [ofFloatSeconds?_eq h, ofSize]
  split <;> rfl

/-- No double is close enough to 2^64 to be rounded up to it. -/
theorem roundEven_lt_longest (hv : Representable v) (hlt : v < 2 ^ 64) :
    roundEven (v * 10 ^ 9) < longest.nanos := by
  have hle : v ≤ (2 ^ 53 - 1 : ℕ) * 2 ^ (11 : ℤ) := by
    obtain ⟨n, rfl⟩ | ⟨-, hsmall⟩ := representable_cases hv (t := 11) (by norm_num)
    · have hsplit : (2 : ℚ) ^ 64 = (2 ^ 53 : ℕ) * 2 ^ (11 : ℤ) := by norm_num
      rw [hsplit, mul_lt_mul_iff_left₀ (two_zpow_pos 11)] at hlt
      have hn : n ≤ 2 ^ 53 - 1 := Nat.le_sub_one_of_lt (by exact_mod_cast hlt)
      exact mul_le_mul_of_nonneg_right (by exact_mod_cast hn) (two_zpow_pos 11).le
    · exact hsmall.le.trans (by norm_num)
  have hscaled : v * 10 ^ 9 ≤ ((2 ^ 53 - 1) * 2 ^ 11 * 10 ^ 9 : ℕ) := by
    norm_num at hle ⊢
    linarith
  calc roundEven (v * 10 ^ 9) ≤ (2 ^ 53 - 1) * 2 ^ 11 * 10 ^ 9 :=
        (roundEven_mono hscaled).trans_eq (roundEven_natCast _)
    _ < longest.nanos := by decide

theorem ofSize_mono (hv : Representable v) (h : v ≤ w) : ofSize v ≤ ofSize w := by
  unfold ofSize
  split <;> rename_i hv'
  · split
    · have hle : v * 10 ^ 9 ≤ w * 10 ^ 9 := by gcongr
      exact roundEven_mono hle
    · exact (roundEven_lt_longest hv hv').le
  · rw [if_neg fun hw => hv' (h.trans_lt hw)]
    exact Nat.le_refl _

theorem ofSize_zero : ofSize 0 = ⟨0⟩ := by
  rw [ofSize, if_pos (by positivity), zero_mul, ← Nat.cast_zero, roundEven_natCast]

theorem ofSize_eq_longest_iff (hv : Representable v) : ofSize v = .longest ↔ ¬v < 2 ^ 64 := by
  unfold ofSize
  split <;> rename_i hlt
  · have hround := roundEven_lt_longest hv hlt
    exact iff_of_false (fun h => hround.ne (congrArg nanos h)) (not_not_intro hlt)
  · exact iff_of_true rfl hlt

theorem nanos_max (a b : Duration) : (a.max b).nanos = Nat.max a.nanos b.nanos := by
  unfold Duration.max
  split <;> rename_i h
  · exact (Nat.max_eq_right h).symm
  · exact (Nat.max_eq_left (Nat.le_of_not_le h)).symm

end CalibratedSweep.Duration
