import CalibratedSweep.Proofs.Decimal.Reader
import CalibratedSweep.Proofs.Duration.Seconds
import CalibratedSweep.SweepFile.Basic

namespace CalibratedSweep.TimeBound

open Double Duration

variable {p : Policy} {s : ℚ} {ops ops' delay delay' : UInt64}

def roundedSeconds (s : ℚ) (ops delay : UInt64) : ℚ :=
  nearest (nearest (nearest (nearest ops.toNat * 2) * nearest (nearest delay.toNat / 10 ^ 9)) * s)

theorem hasValue_two : HasValue 2.0 2 := by
  have hvalue : HasValue 2.0 (2 : ℕ) := Decimal.hasValue_pointZero (m := 2) (by norm_num)
  exact_mod_cast hvalue

theorem hasValue_billion : HasValue 1000000000.0 (10 ^ 9) := by
  have hvalue : HasValue 1000000000.0 (1000000000 : ℕ) :=
    Decimal.hasValue_pointZero (m := 1000000000) (by norm_num)
  have hpower : ((1000000000 : ℕ) : ℚ) = 10 ^ 9 := by norm_num
  exact hpower ▸ hvalue

theorem nearest_toNat_le (n : UInt64) : nearest n.toNat ≤ 2 ^ 64 :=
  nearest_le_two_pow n.toNat.cast_nonneg (by exact_mod_cast n.toNat_lt.le)

theorem doubled_le (ops : UInt64) : nearest (nearest ops.toNat * 2) ≤ 2 ^ 65 := by
  refine nearest_le_two_pow (mul_nonneg (nearest_nonneg _) zero_le_two) ?_
  rw [pow_succ]
  exact mul_le_mul_of_nonneg_right (nearest_toNat_le ops) zero_le_two

theorem delay_le (delay : UInt64) : nearest (nearest delay.toNat / 10 ^ 9) ≤ 2 ^ 64 := by
  refine nearest_le_two_pow (div_nonneg (nearest_nonneg _) (by positivity)) ?_
  exact (div_le_self (nearest_nonneg _) (by norm_num)).trans (nearest_toNat_le delay)

theorem product_le (ops delay : UInt64) :
    nearest (nearest (nearest ops.toNat * 2) * nearest (nearest delay.toNat / 10 ^ 9)) ≤ 2 ^ 129 := by
  refine nearest_le_two_pow (mul_nonneg (nearest_nonneg _) (nearest_nonneg _)) ?_
  calc nearest (nearest ops.toNat * 2) * nearest (nearest delay.toNat / 10 ^ 9)
      ≤ 2 ^ 65 * 2 ^ 64 := mul_le_mul (doubled_le ops) (delay_le delay) (nearest_nonneg _) (by positivity)
    _ = 2 ^ 129 := (pow_add 2 65 64).symm

/-- Only the scale can take the product out of range. -/
theorem seconds_holds (hs : HasValue p.scale s) (ops delay : UInt64) :
    Holds (p.seconds ops delay) (roundedSeconds s ops delay) := by
  have hops := (holds_mul (hasValue_toFloat ops) hasValue_two).hasValue_of_le (by norm_num)
    (doubled_le ops)
  have hdelay := (holds_div (hasValue_toFloat delay) hasValue_billion (by norm_num)).hasValue_of_le
    (by norm_num) (delay_le delay)
  have hproduct := (holds_mul hops hdelay).hasValue_of_le (by norm_num) (product_le ops delay)
  exact holds_mul hproduct hs

theorem bound_eq (hs : HasValue p.scale s) (ops delay : UInt64) :
    p.bound ops delay = (ofSize (roundedSeconds s ops delay)).max p.floor := by
  rw [Policy.bound, getD_ofFloatSeconds? (seconds_holds hs ops delay)]

theorem roundedSeconds_mono (hs : 0 ≤ s) (ho : ops ≤ ops') (hd : delay ≤ delay') :
    roundedSeconds s ops delay ≤ roundedSeconds s ops' delay' := by
  have ho' : (ops.toNat : ℚ) ≤ ops'.toNat := by exact_mod_cast ho
  have hd' : (delay.toNat : ℚ) ≤ delay'.toNat := by exact_mod_cast hd
  have hops : nearest (nearest ops.toNat * 2) ≤ nearest (nearest ops'.toNat * 2) :=
    nearest_mono (mul_nonneg (nearest_nonneg _) zero_le_two)
      (mul_le_mul_of_nonneg_right (nearest_mono (Nat.cast_nonneg _) ho') zero_le_two)
  have hdelay : nearest (nearest delay.toNat / 10 ^ 9) ≤ nearest (nearest delay'.toNat / 10 ^ 9) :=
    nearest_mono (div_nonneg (nearest_nonneg _) (by positivity))
      (div_le_div_of_nonneg_right (nearest_mono (Nat.cast_nonneg _) hd') (by positivity))
  have hproduct := nearest_mono (mul_nonneg (nearest_nonneg _) (nearest_nonneg _))
    (mul_le_mul hops hdelay (nearest_nonneg _) (nearest_nonneg _))
  exact nearest_mono (mul_nonneg (nearest_nonneg _) hs) (mul_le_mul_of_nonneg_right hproduct hs)

theorem roundedSeconds_zero (h : ops = 0 ∨ delay = 0) : roundedSeconds s ops delay = 0 := by
  obtain rfl | rfl := h <;> simp [roundedSeconds, nearest_zero]

theorem nanos_bound (hs : HasValue p.scale s) (ops delay : UInt64) :
    (p.bound ops delay).nanos = Nat.max (ofSize (roundedSeconds s ops delay)).nanos p.floor.nanos := by
  rw [bound_eq hs, nanos_max]

theorem bound_of_zero (hs : HasValue p.scale s) (h : ops = 0 ∨ delay = 0) :
    p.bound ops delay = p.floor := by
  rw [bound_eq hs, roundedSeconds_zero h, ofSize_zero]
  exact if_pos (Nat.zero_le _)

theorem bound_eq_longest_iff (hs : HasValue p.scale s) (hf : p.floor.nanos < longest.nanos) :
    p.bound ops delay = .longest ↔
      ¬((p.seconds ops delay).isFinite = true ∧ size (p.seconds ops delay) < 2 ^ 64) := by
  have hholds := seconds_holds hs ops delay
  have hsize : (p.seconds ops delay).isFinite = true ∧ size (p.seconds ops delay) < 2 ^ 64 ↔
      roundedSeconds s ops delay < 2 ^ 64 := by
    refine ⟨fun ⟨hfin, hlt⟩ => ?_, fun hlt => ?_⟩
    · exact (hholds.hasValue (hholds.isFinite_iff.mp hfin)).size ▸ hlt
    · have hvalue := hholds.hasValue_of_le (by norm_num) hlt.le
      exact ⟨hvalue.isFinite, hvalue.size ▸ hlt⟩
  have hlongest : ofSize (roundedSeconds s ops delay) = .longest ↔ ¬roundedSeconds s ops delay < 2 ^ 64 :=
    ofSize_eq_longest_iff (representable_nearest _)
  rw [hsize, ← hlongest, bound_eq hs]
  unfold Duration.max
  split <;> rename_i hle
  · exact iff_of_false (fun h => hf.ne (congrArg nanos h)) fun h => hf.not_ge (h ▸ hle)
  · exact Iff.rfl

section Policies

variable {t : SweepFile.TimeoutSection}

theorem read_lt_longest {text : String} {d : Duration} (h : Duration.read text = .ok d) :
    d.nanos < longest.nanos := by
  unfold Duration.read at h
  obtain ⟨n, -, rfl⟩ : ∃ n, readNanos text = .ok n ∧ ⟨n.toNat⟩ = d := by
    cases hn : readNanos text <;> rw [hn] at h <;> cases h
    exact ⟨_, rfl, rfl⟩
  exact n.toNat_lt.trans (by decide)

theorem policy_cases (hp : t.policy = .ok p) :
    p.floor.nanos < longest.nanos ∧ HasValue p.scale (size p.scale) := by
  unfold SweepFile.TimeoutSection.policy at hp
  split at hp
  · cases hp
  rename_i floor hfloor
  split at hp <;> cases hp
  rename_i hscale
  rw [Bool.and_eq_true, decide_eq_true_eq] at hscale
  exact ⟨read_lt_longest hfloor, nonneg_of_pos hscale.2, hscale.1, rfl⟩

end Policies

/--
A bound is never below the floor, and with more operations or a longer delay it never gets shorter.
Without operations or without a delay it is the floor. It is the longest duration exactly when the
seconds are too many for a duration, however large their product is.
-/
theorem bounds_grow {t : SweepFile.TimeoutSection} (hp : t.policy = .ok p) (ho : ops ≤ ops')
    (hd : delay ≤ delay') :
    p.floor ≤ p.bound ops delay ∧ p.bound ops delay ≤ p.bound ops' delay' ∧
      p.bound ops 0 = p.floor ∧ p.bound 0 delay = p.floor ∧
      (p.bound ops delay = .longest ↔
        let seconds := ops.toFloat * 2.0 * (delay.toFloat / 1000000000.0) * p.scale
        ¬(seconds.isFinite = true ∧ size seconds < 2 ^ 64)) := by
  obtain ⟨hfloor, hs⟩ := policy_cases hp
  have hgrow : ofSize (roundedSeconds (size p.scale) ops delay) ≤
      ofSize (roundedSeconds (size p.scale) ops' delay') :=
    ofSize_mono (representable_nearest _) (roundedSeconds_mono hs.value_nonneg ho hd)
  refine ⟨?_, ?_, bound_of_zero hs (.inr rfl), bound_of_zero hs (.inl rfl),
    bound_eq_longest_iff hs hfloor⟩
  · change p.floor.nanos ≤ (p.bound ops delay).nanos
    rw [nanos_bound hs]
    exact Nat.le_max_right _ _
  · change (p.bound ops delay).nanos ≤ (p.bound ops' delay').nanos
    rw [nanos_bound hs, nanos_bound hs]
    exact max_le_max hgrow le_rfl

theorem bounds_grow_of_delay :
    SweepFile.TimeoutSection.standard.policy = .ok .standard ∧
      Policy.standard.bound 1000000 17000 ≤ Policy.standard.bound 1000000 80000000 := by
  have hpolicy : SweepFile.TimeoutSection.standard.policy = .ok .standard := by rfl
  have hops : (1000000 : UInt64) ≤ 1000000 := by decide
  have hdelay : (17000 : UInt64) ≤ 80000000 := by decide
  exact ⟨hpolicy, (bounds_grow hpolicy hops hdelay).2.1⟩

end CalibratedSweep.TimeBound
