import CalibratedSweep.Proofs.Double.Numbers
import CalibratedSweep.Scores

namespace CalibratedSweep.Scores

open Double

/-- What a worker may print as a score. -/
def Valid (x : Float) : Prop := x.isFinite = true ∧ 0.0 ≤ x

section Sums

variable {a : Float} {xs : List Float} {j k : ℕ}

theorem nonneg_foldl (ha : 0.0 ≤ a) (h : ∀ x ∈ xs, 0.0 ≤ x) : 0.0 ≤ xs.foldl (· + ·) a := by
  induction xs generalizing a with
  | nil => exact ha
  | cons x xs ih =>
    obtain ⟨hx, hxs⟩ := List.forall_mem_cons.mp h
    exact ih (nonneg_add ha hx) hxs

theorem nonneg_start : 0.0 ≤ (-0.0 : Float) := nonneg_iff.mpr trivial

theorem nonneg_sum (h : ∀ x ∈ xs, 0.0 ≤ x) : 0.0 ≤ sum xs := nonneg_foldl nonneg_start h

def Within (b : ℚ) (x : Float) : Prop := x.isFinite = true ∧ size x ≤ b

theorem representable_mul_two_pow (hk : k < 2 ^ 53) (j : ℕ) : Representable (k * 2 ^ j) :=
  ⟨k, j, hk, by omega, by rw [zpow_natCast]⟩

theorem mul_two_pow_lt (hk : k < 2 ^ 32) (hj : j ≤ 992) : (k : ℚ) * 2 ^ j < 2 ^ 1024 := by
  have hcount : (k : ℚ) < 2 ^ 32 := by exact_mod_cast hk
  calc (k : ℚ) * 2 ^ j < 2 ^ 32 * 2 ^ j := mul_lt_mul_of_pos_right hcount (by positivity)
    _ ≤ 2 ^ 32 * 2 ^ 992 :=
        mul_le_mul_of_nonneg_left (pow_le_pow_right₀ one_le_two hj) (by positivity)
    _ = 2 ^ 1024 := (pow_add 2 32 992).symm

/-- The bounds of the partial sums are doubles, so rounding does not leave them. -/
theorem within_foldl (ha : 0.0 ≤ a) (hk : Within (k * 2 ^ j) a) (h : ∀ x ∈ xs, 0.0 ≤ x)
    (hb : ∀ x ∈ xs, Within (2 ^ j) x) (hn : k + xs.length < 2 ^ 32) (hj : j ≤ 992) :
    Within ((k + xs.length : ℕ) * 2 ^ j) (xs.foldl (· + ·) a) := by
  induction xs generalizing a k with
  | nil => exact hk
  | cons x xs ih =>
    obtain ⟨hx, hxs⟩ := List.forall_mem_cons.mp h
    obtain ⟨hbx, hbxs⟩ := List.forall_mem_cons.mp hb
    rw [List.length_cons, Nat.add_comm xs.length, ← Nat.add_assoc] at hn ⊢
    have hsum : size a + size x ≤ (k + 1 : ℕ) * 2 ^ j := by
      rw [Nat.cast_succ, add_mul, one_mul]
      exact add_le_add hk.2 hbx.2
    exact ih (nonneg_add ha hx)
      (bounded_add ha hx hk.1 hbx.1 (representable_mul_two_pow (by omega) j) hsum
        (mul_two_pow_lt (by omega) hj)) hxs hbxs hn

theorem within_sum (h : ∀ x ∈ xs, 0.0 ≤ x) (hb : ∀ x ∈ xs, Within (2 ^ j) x)
    (hn : xs.length < 2 ^ 32) (hj : j ≤ 992) : Within (xs.length * 2 ^ j) (sum xs) := by
  have hzero : Within ((0 : ℕ) * 2 ^ j) (-0.0) := by
    refine ⟨rfl, ?_⟩
    rw [Nat.cast_zero, zero_mul]
    exact le_rfl
  have hsum := within_foldl nonneg_start hzero h hb (by rwa [Nat.zero_add]) hj
  rw [Nat.zero_add] at hsum
  exact hsum

end Sums

section Summaries

variable {xs : List Float} {j : ℕ} (hv : ∀ x ∈ xs, Valid x) (hn : xs.length < 2 ^ 32)
include hv hn

theorem mean_nonneg : 0.0 ≤ mean xs ∧ (mean xs).isFinite = (sum xs).isFinite := by
  cases xs with
  | nil => exact ⟨nonneg_iff.mpr trivial, rfl⟩
  | cons x xs =>
    obtain ⟨hnonneg, hfinite, -⟩ := div_ofNat (nonneg_sum fun y hy => (hv y hy).2)
      (Nat.zero_lt_succ xs.length) (hn.trans (by norm_num))
    exact ⟨hnonneg, hfinite⟩

theorem squaredDistance_nonneg : ∀ y ∈ xs.map (squaredDistance (mean xs)), 0.0 ≤ y := by
  intro y hy
  obtain ⟨x, hx, rfl⟩ := List.mem_map.mp hy
  exact (square_sub (hv x hx).2 (hv x hx).1 (mean_nonneg hv hn).1).1

theorem deviation_nonneg : 0.0 ≤ deviation xs ∧ ((deviation xs).isFinite = true ↔
    xs.length < 2 ∨ (sum (xs.map (squaredDistance (mean xs)))).isFinite = true) := by
  unfold deviation
  split
  · rename_i hfew
    exact ⟨nonneg_iff.mpr trivial, iff_of_true rfl (.inl hfew)⟩
  · rename_i hmany
    obtain ⟨hquotient, hfinite, -⟩ := div_ofNat (nonneg_sum (squaredDistance_nonneg hv hn))
      (by omega : 0 < xs.length) (hn.trans (by norm_num))
    obtain ⟨hroot, hfinite'⟩ := sqrt_nonneg hquotient
    refine ⟨hroot, ?_⟩
    rw [hfinite', hfinite, or_iff_right hmany]

theorem within_mean (hb : ∀ x ∈ xs, Within (2 ^ j) x) (hj : j ≤ 992) : Within (2 ^ j) (mean xs) := by
  have hsum := within_sum (fun x hx => (hv x hx).2) hb hn hj
  refine ⟨(mean_nonneg hv hn).2.trans hsum.1, ?_⟩
  cases xs with
  | nil => exact pow_nonneg zero_le_two j
  | cons x xs =>
    obtain ⟨-, -, hbound⟩ := div_ofNat (nonneg_sum fun y hy => (hv y hy).2)
      (Nat.zero_lt_succ xs.length) (hn.trans (by norm_num))
    refine hbound (2 ^ j) (representable_two_pow j) ?_
      (pow_lt_pow_right₀ one_lt_two (by omega))
    rw [div_le_iff₀ (by positivity), mul_comm]
    exact hsum.2

theorem isFinite_of_le (hmax : ∀ x ∈ xs, x ≤ 1e149) :
    (sum xs).isFinite = true ∧ (sum (xs.map (squaredDistance (mean xs)))).isFinite = true := by
  have hlimit : size 1e149 ≤ 2 ^ 495 := by
    have hbits : (1e149 : Float) = Float.ofBits 0x5edf485516e7577f := by decide +kernel
    have hparts : parts (Float.ofBits 0x5edf485516e7577f) =
        .finite .positive 8805254571710335 442 (by norm_num) := rfl
    calc size 1e149 = (8805254571710335 : ℕ) * 2 ^ (442 : ℤ) := by rw [hbits, size, hparts, magnitude]
      _ ≤ 2 ^ 53 * 2 ^ (442 : ℤ) := mul_le_mul_of_nonneg_right (by norm_num) (two_zpow_pos 442).le
      _ = 2 ^ 495 := (pow_add 2 53 442).symm
  have hlimit' : (1e149 : Float).isFinite = true := by decide +kernel
  have hb : ∀ x ∈ xs, Within (2 ^ 495) x := by
    intro x hx
    obtain ⟨hfinite, hle⟩ := size_le (hv x hx).2 hlimit' (hmax x hx)
    exact ⟨hfinite, hle.trans hlimit⟩
  have hmean := within_mean hv hn hb (by norm_num)
  have hsquare : (2 : ℚ) ^ 495 * 2 ^ 495 = 2 ^ 990 := (pow_add 2 495 495).symm
  have hdistance : ∀ y ∈ xs.map (squaredDistance (mean xs)), Within (2 ^ 990) y := by
    intro y hy
    obtain ⟨x, hx, rfl⟩ := List.mem_map.mp hy
    have hbound := (square_sub (hv x hx).2 (hv x hx).1 (mean_nonneg hv hn).1).2 _
      (representable_two_pow 495)
    rw [hsquare] at hbound
    exact hbound (representable_two_pow 990) (pow_lt_pow_right₀ one_lt_two (by norm_num)) hmean.1
      (hb x hx).2 hmean.2
  have hcount : (xs.map (squaredDistance (mean xs))).length < 2 ^ 32 := by rwa [List.length_map]
  exact ⟨(within_sum (fun x hx => (hv x hx).2) hb hn (by norm_num)).1,
    (within_sum (squaredDistance_nonneg hv hn) hdistance hcount (by norm_num)).1⟩

end Summaries

end CalibratedSweep.Scores
