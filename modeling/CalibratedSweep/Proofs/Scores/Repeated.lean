import CalibratedSweep.Proofs.Double.Values
import CalibratedSweep.Proofs.Reduction
import CalibratedSweep.Proofs.Scores
/-!
Scores that are all the same. Their sum is rounded after every addition, so their mean may miss them:
by a share of at most the number of scores over 2^52, and not at all as long as the sums are exact.
-/

namespace CalibratedSweep.Scores

open Double
open Float.Model (UnpackedFloat Format)
open Float.Model.UnpackedFloat (Sign)

section PartialSums

variable {v : ℚ} {k n : ℕ}

def partialSum (v : ℚ) : ℕ → ℚ
  | 0 => 0
  | k + 1 => nearest (partialSum v k + v)

theorem representable_partialSum (v : ℚ) : ∀ k, Representable (partialSum v k)
  | 0 => ⟨0, 0, by norm_num, by norm_num, by norm_num [partialSum]⟩
  | _ + 1 => representable_nearest _

theorem partialSum_nonneg (v : ℚ) (k : ℕ) : 0 ≤ partialSum v k := (representable_partialSum v k).nonneg

theorem partialSum_eq (h : ∀ k ≤ n, Representable (k * v)) (hk : k ≤ n) : partialSum v k = k * v := by
  induction k with
  | zero => rw [partialSum, Nat.cast_zero, zero_mul]
  | succ k ih =>
    have hnext : k * v + v = (k + 1 : ℕ) * v := by push_cast; ring
    rw [partialSum, ih (Nat.le_of_succ_le hk), hnext, nearest_of_representable (h _ hk)]

theorem abs_partialSum_sub_le (hv : Representable v) (hk : k ≤ 2 ^ 53) :
    |partialSum v k - k * v| ≤ k ^ 2 * v / 2 ^ 53 := by
  induction k with
  | zero => simp [partialSum]
  | succ k ih =>
    have hprevious := ih (Nat.le_of_succ_le hk)
    have hround := abs_nearest_add_sub_le (representable_partialSum v k) hv
    have hk' : (k : ℚ) ≤ 2 ^ 53 := by exact_mod_cast Nat.le_of_succ_le hk
    have hkv : 0 ≤ k * v := mul_nonneg k.cast_nonneg hv.nonneg
    have hsquare : (k : ℚ) ^ 2 * v / 2 ^ 53 ≤ k * v := by
      rw [div_le_iff₀ (by positivity), pow_two, mul_assoc, mul_comm]
      exact mul_le_mul_of_nonneg_left hk' hkv
    have hupper : partialSum v k + v ≤ (2 * k + 1) * v := by
      have hle := (abs_le.mp hprevious).2
      linarith
    have hsplit : partialSum v (k + 1) - (k + 1 : ℕ) * v =
        (nearest (partialSum v k + v) - (partialSum v k + v)) + (partialSum v k - k * v) := by
      rw [partialSum]
      push_cast
      ring
    calc |partialSum v (k + 1) - (k + 1 : ℕ) * v|
        ≤ (partialSum v k + v) / 2 ^ 53 + k ^ 2 * v / 2 ^ 53 := by
          rw [hsplit]
          exact (abs_add_le _ _).trans (add_le_add hround hprevious)
      _ ≤ (2 * k + 1) * v / 2 ^ 53 + k ^ 2 * v / 2 ^ 53 := by gcongr
      _ = (k + 1 : ℕ) ^ 2 * v / 2 ^ 53 := by push_cast; ring

theorem abs_mean_sub_le (hv : Representable v) (hn : 0 < n) (hsmall : n ≤ 2 ^ 53) :
    |nearest (partialSum v n / n) - v| ≤ n * v / 2 ^ 52 := by
  have hpos : (0 : ℚ) < n := by exact_mod_cast hn
  have hquotient : partialSum v n / n - v = (partialSum v n - n * v) / n := by
    rw [sub_div, mul_div_cancel_left₀ v hpos.ne']
  calc |nearest (partialSum v n / n) - v|
      ≤ 2 * |partialSum v n / n - v| :=
        abs_nearest_sub_le_two_mul hv (div_nonneg (partialSum_nonneg v n) hpos.le)
    _ = 2 * (|partialSum v n - n * v| / n) := by rw [hquotient, abs_div, abs_of_pos hpos]
    _ ≤ 2 * (n ^ 2 * v / 2 ^ 53 / n) := by gcongr; exact abs_partialSum_sub_le hv hsmall
    _ = n * v / 2 ^ 52 := by field_simp

theorem nearest_partialSum_div (h : ∀ k ≤ n, Representable (k * v)) (hn : 0 < n) :
    nearest (partialSum v n / n) = v := by
  have hne : (n : ℚ) ≠ 0 := by exact_mod_cast hn.ne'
  have hone := h 1 hn
  rw [Nat.cast_one, one_mul] at hone
  rw [partialSum_eq h le_rfl, mul_div_cancel_left₀ v hne, nearest_of_representable hone]

theorem representable_mul_of_le_two (hv : Representable v) (hk : k ≤ 2) : Representable (k * v) := by
  obtain ⟨m, e, hm, he, rfl⟩ := hv
  interval_cases k
  · exact ⟨0, e, by norm_num, he, by simp⟩
  · exact ⟨m, e, hm, he, by rw [Nat.cast_one, one_mul]⟩
  · refine ⟨m, e + 1, hm, by omega, ?_⟩
    rw [two_zpow_succ]
    push_cast
    ring

end PartialSums

section Copies

variable {x : Float} {v : ℚ} {s : Sign} {n : ℕ}

theorem sum_replicate_succ (x : Float) (n : ℕ) :
    sum (.replicate (n + 1) x) = sum (.replicate n x) + x := by
  rw [sum, List.replicate_succ', List.foldl_append]
  rfl

theorem hasValue_start : HasValue (-0.0) 0 := hasValue_zero (s := .negative) rfl

theorem hasValue_sum (hx : HasValue x v) (hsum : ∀ k ≤ n, (sum (.replicate k x)).isFinite = true) :
    HasValue (sum (.replicate n x)) (partialSum v n) := by
  induction n with
  | zero => exact hasValue_start
  | succ n ih =>
    have hprevious := ih fun k hk => hsum k (Nat.le_succ_of_le hk)
    have hnext := holds_add hprevious hx
    rw [sum_replicate_succ, partialSum]
    refine hnext.hasValue (hnext.isFinite_iff.mp ?_)
    rw [← sum_replicate_succ]
    exact hsum _ le_rfl

theorem sum_zeros (hx : parts x = .zero s) (n : ℕ) : sum (.replicate (n + 1) x) = x := by
  have hstart : (-0.0 : Float) + x = x := by
    have hnegative : parts (-0.0) = .zero .negative := rfl
    refine eq_of_pack_parts ((parts_add _ x).trans ?_)
    rw [hx, hnegative]
    cases s <;> rfl
  have hself : x + x = x := by
    refine eq_of_pack_parts ((parts_add x x).trans ?_)
    rw [hx]
    cases s <;> rfl
  induction n with
  | zero => exact hstart
  | succ n ih => rw [sum_replicate_succ, ih, hself]

theorem squaredDistance_self (hx : HasValue x v) : squaredDistance x x = 0.0 := by
  have hdifference : ∃ t, parts (x - x) = .zero t := by
    have hsub : parts (x - x) = (Float.Model.pack (UnpackedFloat.sub Format.binary64
        (parts x) (parts x))).unpack := rfl
    obtain ⟨⟨t, ht⟩, -⟩ | ⟨m, e, hm, hparts, -⟩ := hx.cases
    · rw [hsub, ht]
      cases t <;> exact ⟨_, rfl⟩
    · rw [hsub, hparts]
      simp only [UnpackedFloat.sub, Int.sub_self]
      exact ⟨.positive, unpack_pack (u := .zero .positive) trivial⟩
  obtain ⟨t, ht⟩ := hdifference
  refine float_eq_of_parts ((parts_mul (x - x) (x - x)).trans ?_)
  rw [ht]
  cases t <;> rfl

theorem mean_replicate (x : Float) (hn : 0 < n) :
    mean (.replicate n x) = sum (.replicate n x) / Float.ofNat n := by
  have hne : (List.replicate n x).isEmpty = false := by
    rw [List.isEmpty_replicate]
    exact decide_eq_false hn.ne'
  rw [mean, hne, if_neg Bool.false_ne_true, List.length_replicate]

theorem zero_div_ofNat (hx : parts x = .zero s) (hn : 0 < n) (hsmall : n < 2 ^ 53) :
    x / Float.ofNat n = x := by
  obtain ⟨m, e, hm, hparts, -⟩ := parts_ofNat hn hsmall
  refine eq_of_pack_parts ((parts_div x _).trans ?_)
  rw [hx, hparts]
  cases s <;> rfl

section Means

variable (hx : HasValue x v) (hn : 0 < n) (hsmall : n < 2 ^ 53)
  (hsum : ∀ k ≤ n, (sum (.replicate k x)).isFinite = true)
include hx hn hsmall hsum

theorem hasValue_mean : HasValue (mean (.replicate n x)) (nearest (partialSum v n / n)) := by
  have htotal := hasValue_sum hx hsum
  have hone : (1 : ℚ) ≤ n := by exact_mod_cast hn
  rw [mean_replicate x hn]
  refine (holds_div htotal (hasValue_ofNat hn hsmall) (by exact_mod_cast hn)).hasValue ?_
  calc nearest (partialSum v n / n) ≤ partialSum v n :=
        nearest_le (div_nonneg htotal.value_nonneg (by positivity)) htotal.representable
          (div_le_self htotal.value_nonneg hone)
    _ < 2 ^ 1024 := htotal.lt

theorem mean_eq_iff : mean (.replicate n x) = x ↔ nearest (partialSum v n / n) = v := by
  have hmean := hasValue_mean hx hn hsmall hsum
  refine ⟨fun h => ?_, fun h => ?_⟩
  · rw [← hmean.size, h, hx.size]
  · obtain ⟨⟨s, hs⟩, -⟩ | ⟨m, e, hm, hparts, hvalue⟩ := hx.cases
    · obtain ⟨k, rfl⟩ := Nat.exists_eq_succ_of_ne_zero hn.ne'
      rw [mean_replicate x hn, sum_zeros hs, zero_div_ofNat hs hn hsmall]
    · have hpos : 0 < v := hvalue ▸ mul_pos (by exact_mod_cast hm) (two_zpow_pos e)
      exact (h ▸ hmean).eq hx hpos

end Means

theorem deviation_eq_zero (hx : HasValue x v) (hsmall : n < 2 ^ 53)
    (hmean : mean (.replicate n x) = x) : deviation (.replicate n x) = 0.0 := by
  have hzero : parts 0.0 = .zero .positive := rfl
  unfold deviation
  split
  · rfl
  · rename_i hmany
    rw [List.length_replicate, not_lt] at hmany
    obtain ⟨k, rfl⟩ := Nat.exists_eq_add_of_le' (Nat.one_le_of_lt hmany)
    rw [List.length_replicate, hmean, List.map_replicate, squaredDistance_self hx, sum_zeros hzero,
      zero_div_ofNat hzero (Nat.succ_pos k) hsmall]
    rfl

end Copies

end Scores

open Double Scores

variable {c : Configuration} {x : Float} {runs : UInt32}

/--
Equal scores whose sum does not overflow make a row. Its score misses them by a share of at most the
number of runs over 2^52. It is exact, with no error beside it, if and only if the rounded sum leads
back to the score, as it does for one or two runs and for scores with few enough bits.
-/
theorem reduce_repeated_scores (hx : 0.0 ≤ x) (hf : x.isFinite = true) (hruns : 1 ≤ runs)
    (hsum : ∀ k ≤ runs.toNat, (Scores.sum (.replicate k x)).isFinite = true) :
    ∃ row, reduce c (.replicate runs.toNat (.success x)) runs = .ok row ∧ row.configuration = c ∧
      row.runs = runs ∧
      |size row.score - size x| ≤ runs.toNat * size x / 2 ^ 52 ∧
      (row.score = x ∧ row.scoreError = 0.0 ↔
        nearest (partialSum (size x) runs.toNat / runs.toNat) = size x) ∧
      (runs ≤ 2 → row.score = x ∧ row.scoreError = 0.0) ∧
      ∀ m : ℕ, ∀ e : ℤ, -1074 ≤ e → size x = m * 2 ^ e → runs.toNat * m < 2 ^ 53 →
        row.score = x ∧ row.scoreError = 0.0 := by
  set n := runs.toNat with hn
  have hvalue := hasValue_size hx hf
  have hpos : 0 < n := hruns
  have hsmall : n < 2 ^ 53 := runs.toNat_lt.trans (by norm_num)
  have hmean := hasValue_mean hvalue hpos hsmall hsum
  have hiff := mean_eq_iff hvalue hpos hsmall hsum
  have hexact (h : nearest (partialSum (size x) n / n) = size x) :
      mean (.replicate n x) = x ∧ deviation (.replicate n x) = 0.0 :=
    ⟨hiff.mpr h, deviation_eq_zero hvalue hsmall (hiff.mpr h)⟩
  have hrow : reduce c (.replicate n (.success x)) runs =
      .ok ⟨c, mean (.replicate n x), deviation (.replicate n x), runs⟩ := by
    rw [← reduce_scores c runs List.length_replicate, List.map_replicate]
  refine ⟨_, hrow, rfl, rfl, ?_, ⟨fun h => hiff.mp h.1, hexact⟩, fun htwo => ?_,
    fun m e he hme hbits => ?_⟩
  · rw [hmean.size]
    exact abs_mean_sub_le (representable_size x) hpos hsmall.le
  · have htwo' : n ≤ 2 := htwo
    exact hexact (nearest_partialSum_div
      (fun k hk => representable_mul_of_le_two (representable_size x) (hk.trans htwo')) hpos)
  · refine hexact (nearest_partialSum_div (fun k hk => ?_) hpos)
    rw [hme]
    refine ⟨k * m, e, (Nat.mul_le_mul_right m hk).trans_lt hbits, he, ?_⟩
    push_cast
    ring

theorem reduce_repeated_scores_tens :
    (∀ k ≤ 3, (Scores.sum (.replicate k 10)).isFinite = true) ∧ ∃ row,
      reduce ⟨"A", ⟨1, 1⟩, 64, 1000, 0⟩ (.replicate 3 (.success 10)) 3 = .ok row ∧
        row.score = 10 ∧ row.scoreError = 0.0 := by
  have hten : parts 10 = .finite .positive (10 * 2 ^ 49) (-49) (by positivity) := rfl
  have hruns : (1 : UInt32) ≤ 3 := by decide
  have hsum : ∀ k ≤ (3 : UInt32).toNat, (Scores.sum (.replicate k 10)).isFinite = true := by
    decide +kernel
  obtain ⟨row, hrow, -, -, -, -, -, hfew⟩ := reduce_repeated_scores
    (c := ⟨"A", ⟨1, 1⟩, 64, 1000, 0⟩) (by decide +kernel) (by decide +kernel) hruns hsum
  refine ⟨hsum, row, hrow, hfew 10 0 (by norm_num) ?_ (by decide)⟩
  rw [size, hten, magnitude]
  norm_num

/-- Three times a tenth, added up and divided by three, is the next number. -/
theorem tenths_not_kept :
    (0.0 : Float) ≤ 0.1 ∧ (0.1 : Float).isFinite = true ∧
      (∀ k ≤ 3, (Scores.sum (.replicate k 0.1)).isFinite = true) ∧ ∃ row,
        reduce ⟨"A", ⟨1, 1⟩, 64, 1000, 0⟩ (.replicate 3 (.success 0.1)) 3 = .ok row ∧
          row.score ≠ 0.1 ∧ row.scoreError ≠ 0.0 ∧
          Decimal.scoreText row.score = "0.10000000000000002" ∧
          Decimal.scoreText row.scoreError = "0.000000000000000013877787807814457" := by
  have hlength : (List.replicate 3 (0.1 : Float)).length = (3 : UInt32).toNat := rfl
  refine ⟨by decide +kernel, by decide +kernel, by decide +kernel, _, reduce_scores _ 3 hlength, ?_, ?_,
    ?_, ?_⟩ <;> decide +kernel

end CalibratedSweep
