import CalibratedSweep.Proofs.Double.Nearest
/-!
Arithmetic on doubles that are not negative: sums, quotients and roots of them are not negative
either, and neither is any square. How large a result can be follows from how large its operands are,
as long as the bound is itself a double.
-/

namespace CalibratedSweep.Double

open Float.Model (Format UnpackedFloat totalExponent)
open Float.Model.UnpackedFloat

def NonNegative : UnpackedFloat → Prop
  | .infinity s | .finite s _ _ _ => s = .positive
  | .zero _ => True
  | .notANumber => False

section Rounded

variable {s : Sign} {v : ℚ} {u : UnpackedFloat}

theorem magnitude_nonneg (u : UnpackedFloat) : 0 ≤ magnitude u := by
  cases u with
  | finite s m e hm => exact mul_nonneg m.cast_nonneg (two_zpow_pos e).le
  | _ => exact le_rfl

theorem packed_eq_self (hc : Canonical u) (h : magnitude u < 2 ^ 1024) : packed u = u := by
  cases u with
  | finite s m e hm =>
    obtain ⟨hhi, hlo, hnormal⟩ := hc
    refine if_pos (not_lt.mp fun he => ?_)
    have hbit : (2 : ℚ) ^ 52 ≤ m := by exact_mod_cast hnormal.resolve_right (by omega)
    have hexp : (2 : ℚ) ^ (972 : ℤ) ≤ 2 ^ e := zpow_le_zpow_right₀ one_le_two he
    have hsize : (2 : ℚ) ^ 52 * 2 ^ (972 : ℤ) ≤ m * 2 ^ e := by gcongr
    have htop : (2 : ℚ) ^ 52 * 2 ^ (972 : ℤ) = 2 ^ 1024 := (pow_add 2 52 972).symm
    rw [htop] at hsize
    exact absurd h (not_lt.mpr hsize)
  | _ => rfl

theorem IsFinite.nonNegative (h : IsFinite .positive u) : NonNegative u := by
  cases u with
  | zero t => trivial
  | finite t m e hm => exact h
  | _ => cases h

theorem NonNegative.packed (h : NonNegative u) : NonNegative (packed u) := by
  cases u with
  | finite t m e hm =>
    rw [Double.packed]
    split <;> exact h
  | _ => exact h

/-- A size that a double has is not changed by rounding. -/
theorem Rounded.magnitude_eq (h : Rounded s v u) (hv : Representable v) : magnitude u = v :=
  le_antisymm (h.upper v hv le_rfl) (h.lower v hv le_rfl)

end Rounded

section Operations

variable {s : Sign} {m : ℕ} {e : ℤ}

theorem value_shiftLeft (m d : ℕ) (e : ℤ) :
    ((m <<< d : ℕ) : ℚ) * 2 ^ (e - d) = m * 2 ^ e := by
  rw [Nat.shiftLeft_eq, zpow_sub₀ two_ne_zero, zpow_natCast]
  push_cast
  field_simp

theorem log2_shiftLeft (hm : 0 < m) (d : ℕ) : (m <<< d).log2 = m.log2 + d := by
  obtain ⟨hlo, hhi⟩ := (Nat.log2_eq_iff hm.ne').mp rfl
  rw [Nat.shiftLeft_eq, Nat.log2_eq_iff (by positivity), add_right_comm, pow_add, pow_add]
  exact ⟨Nat.mul_le_mul_right _ hlo, Nat.mul_lt_mul_of_pos_right hhi (by positivity)⟩

theorem rounded_round (s : Sign) (hm : 0 < m) (e : ℤ) :
    RoundedToNearest s (m * 2 ^ e) (UnpackedFloat.round Format.binary64 s m e) := by
  have hfine : Fine (m <<< (e - target m e).toNat) (e - (e - target m e).toNat) := by
    unfold Fine
    rw [log2_shiftLeft hm]
    unfold target
    omega
  unfold UnpackedFloat.round
  rw [targetExponent_eq, ← value_shiftLeft m (e - target m e).toNat e]
  exact roundedToNearest_roundWithAccuracy s rfl hfine

theorem rounded_normalize (k e : ℤ) :
    ∃ s, RoundedToNearest s (|k| * 2 ^ e)
        (UnpackedFloat.normalize Format.binary64 k e .positive) ∧ (0 ≤ k → s = .positive) := by
  have habs : ((k.natAbs : ℕ) : ℚ) = |k| := Nat.cast_natAbs k
  unfold UnpackedFloat.normalize
  obtain hk | rfl | hk := lt_trichotomy k 0
  · have hsize : (-k).toNat = k.natAbs := by omega
    rw [Int.compare_eq_lt.mpr hk, ← habs, hsize]
    exact ⟨.negative, rounded_round .negative (by omega) e, fun h => absurd hk (by omega)⟩
  · refine ⟨.positive, ⟨⟨trivial, rfl, fun b _ hb => ?_, fun b _ hb => ?_⟩, ?_⟩, fun _ => rfl⟩
    · simpa [magnitude] using hb
    · simpa [magnitude] using hb
    · rw [Int.cast_abs, Int.cast_zero, abs_zero, zero_mul, nearest_zero]
      rfl
  · have hsize : k.toNat = k.natAbs := by omega
    rw [Int.compare_eq_gt.mpr hk, ← habs, hsize]
    exact ⟨.positive, rounded_round .positive (by omega) e, fun _ => rfl⟩

theorem shift_to_common (m : ℕ) {e t : ℤ} (h : t ≤ e) :
    ((m <<< (e - t).toNat : ℕ) : ℚ) * 2 ^ t = m * 2 ^ e := by
  have hsum : e - (e - t).toNat = t := by omega
  rw [← value_shiftLeft m (e - t).toNat e, hsum]

end Operations

/-- A result that is not negative, and that no double from `v` on is smaller than. -/
structure Result (v : ℚ) (u : UnpackedFloat) : Prop where
  nonNegative : NonNegative u
  canonical : Canonical u
  upper : ∀ c, Representable c → v ≤ c → magnitude u ≤ c

theorem Rounded.result {v : ℚ} {u : UnpackedFloat} (h : Rounded .positive v u) : Result v u :=
  ⟨h.sign.nonNegative, h.canonical, h.upper⟩

theorem result_of_le {v : ℚ} {u : UnpackedFloat} (hu : NonNegative u) (cu : Canonical u)
    (hv : magnitude u ≤ v) : Result v u :=
  ⟨hu, cu, fun _ _ hc => hv.trans hc⟩

section Sums

variable {u w : UnpackedFloat}

theorem rounded_add {m n : ℕ} (hm : 0 < m) (hn : 0 < n) (e f : ℤ) :
    RoundedToNearest .positive (m * 2 ^ e + n * 2 ^ f)
      (UnpackedFloat.add Format.binary64 (.finite .positive m e hm) (.finite .positive n f hn)) := by
  have hm' := shift_to_common m (min_le_left e f)
  have hn' := shift_to_common n (min_le_right e f)
  change RoundedToNearest _ _ (UnpackedFloat.normalize _ ((m <<< (e - min e f).toNat : ℕ) +
    (n <<< (f - min e f).toNat : ℕ) : ℤ) _ _)
  generalize m <<< (e - min e f).toNat = i at *
  generalize n <<< (f - min e f).toNat = j at *
  obtain ⟨s, hround, hsign⟩ := rounded_normalize (i + j) (min e f)
  have hnonneg : (0 : ℤ) ≤ i + j := by positivity
  rw [abs_of_nonneg hnonneg] at hround
  push_cast at hround
  rw [add_mul, hm', hn'] at hround
  rw [hsign hnonneg] at hround
  exact hround

theorem rounded_sub {m n : ℕ} (hm : 0 < m) (hn : 0 < n) (e f : ℤ) :
    ∃ s, RoundedToNearest s |(m : ℚ) * 2 ^ e - n * 2 ^ f|
      (UnpackedFloat.sub Format.binary64 (.finite .positive m e hm) (.finite .positive n f hn)) := by
  have hm' := shift_to_common m (min_le_left e f)
  have hn' := shift_to_common n (min_le_right e f)
  change ∃ s, RoundedToNearest _ _ (UnpackedFloat.normalize _ ((m <<< (e - min e f).toNat : ℕ) -
    (n <<< (f - min e f).toNat : ℕ) : ℤ) _ _)
  generalize m <<< (e - min e f).toNat = i at *
  generalize n <<< (f - min e f).toNat = j at *
  obtain ⟨s, hround, -⟩ := rounded_normalize (i - j) (min e f)
  have hsize : ((|(i - j : ℤ)| : ℤ) : ℚ) * 2 ^ min e f = |(m : ℚ) * 2 ^ e - n * 2 ^ f| := by
    rw [← hm', ← hn', ← sub_mul, abs_mul, abs_of_pos (two_zpow_pos (min e f))]
    push_cast
    rfl
  rw [hsize] at hround
  exact ⟨s, hround⟩

theorem isFinite_of_isFinite {s : Sign} (h : IsFinite s u) : u.isFinite = true := by
  cases u with
  | zero t => rfl
  | finite t m e hm => rfl
  | _ => cases h

theorem add_infinity (hw : NonNegative w) :
    UnpackedFloat.add Format.binary64 (.infinity .positive) w = .infinity .positive := by
  cases w with
  | notANumber => cases hw
  | infinity t =>
    cases hw
    rfl
  | _ => rfl

theorem add_zero_cases (s : Sign) (w : UnpackedFloat) :
    UnpackedFloat.add Format.binary64 (.zero s) w = w ∨
      (∃ t, w = .zero t) ∧ ∃ t, UnpackedFloat.add Format.binary64 (.zero s) w = .zero t := by
  cases w with
  | zero t => exact .inr ⟨⟨t, rfl⟩, by cases s <;> cases t <;> exact ⟨_, rfl⟩⟩
  | _ => exact .inl rfl

theorem result_add (hu : NonNegative u) (hw : NonNegative w) (cu : Canonical u)
    (cw : Canonical w) :
    Result (magnitude u + magnitude w) (UnpackedFloat.add Format.binary64 u w) ∧
      ((UnpackedFloat.add Format.binary64 u w).isFinite = true ↔
        u.isFinite = true ∧ w.isFinite = true) := by
  have hleft : magnitude u ≤ magnitude u + magnitude w := le_add_of_nonneg_right (magnitude_nonneg w)
  have hright : magnitude w ≤ magnitude u + magnitude w := le_add_of_nonneg_left (magnitude_nonneg u)
  cases u with
  | notANumber => cases hu
  | infinity s =>
    cases hu
    rw [add_infinity hw]
    exact ⟨result_of_le rfl cu hleft, by simp [UnpackedFloat.isFinite]⟩
  | zero s =>
    obtain hsum | ⟨⟨t, rfl⟩, r, hsum⟩ := add_zero_cases s w <;> rw [hsum]
    · exact ⟨result_of_le hw cw hright, by simp [UnpackedFloat.isFinite]⟩
    · exact ⟨result_of_le trivial trivial hright, by simp [UnpackedFloat.isFinite]⟩
  | finite s m e hm =>
    cases w with
    | notANumber => cases hw
    | infinity t => exact ⟨result_of_le hw cw hright, iff_of_false nofun nofun⟩
    | zero t => exact ⟨result_of_le hu cu hleft, iff_of_true rfl ⟨rfl, rfl⟩⟩
    | finite t n f hn =>
      cases hu
      cases hw
      have hround := rounded_add hm hn e f
      exact ⟨hround.result, iff_of_true (isFinite_of_isFinite hround.sign) ⟨rfl, rfl⟩⟩

end Sums

section Products

theorem fine_mul {s t : Sign} {m n : ℕ} {e f : ℤ} {hm : 0 < m} {hn : 0 < n}
    (cu : Canonical (.finite s m e hm)) (cw : Canonical (.finite t n f hn)) :
    Fine (m * n) (e + f) := by
  obtain ⟨-, he, hnormal⟩ := cu
  obtain ⟨-, hf, hnormal'⟩ := cw
  have hpos : m * n ≠ 0 := (Nat.mul_pos hm hn).ne'
  unfold Fine
  rw [Nat.le_log2 hpos]
  obtain hbit | rfl := hnormal
  · exact .inl (hbit.trans (Nat.le_mul_of_pos_right m hn))
  · obtain hbit | rfl := hnormal'
    · exact .inl (hbit.trans (Nat.le_mul_of_pos_left n hm))
    · exact .inr (by norm_num)

theorem rounded_mul_of_fine (s t : Sign) {m n : ℕ} {e f : ℤ} (hm : 0 < m) (hn : 0 < n)
    (hf : Fine (m * n) (e + f)) : RoundedToNearest (s * t) (m * 2 ^ e * (n * 2 ^ f))
      (UnpackedFloat.mul Format.binary64 (.finite s m e hm) (.finite t n f hn)) := by
  refine roundedToNearest_roundWithAccuracy _ ?_ hf
  rw [Cut, zpow_add₀ two_ne_zero]
  push_cast
  ring

theorem rounded_mul {s t : Sign} {m n : ℕ} {e f : ℤ} {hm : 0 < m} {hn : 0 < n}
    (cu : Canonical (.finite s m e hm)) (cw : Canonical (.finite t n f hn)) :
    RoundedToNearest (s * t) (m * 2 ^ e * (n * 2 ^ f))
      (UnpackedFloat.mul Format.binary64 (.finite s m e hm) (.finite t n f hn)) :=
  rounded_mul_of_fine s t hm hn (fine_mul cu cw)

variable {u : UnpackedFloat}

theorem result_square (hu : u ≠ .notANumber) (cu : Canonical u) :
    Result (magnitude u * magnitude u) (UnpackedFloat.mul Format.binary64 u u) ∧
      ((UnpackedFloat.mul Format.binary64 u u).isFinite = true ↔ u.isFinite = true) := by
  have hsign (s : Sign) : s * s = .positive := by cases s <;> rfl
  cases u with
  | notANumber => exact absurd rfl hu
  | infinity s => exact ⟨result_of_le (hsign s) trivial (mul_self_nonneg 0), Iff.rfl⟩
  | zero s => exact ⟨result_of_le trivial trivial (mul_self_nonneg 0), Iff.rfl⟩
  | finite s m e hm =>
    have hround := rounded_mul cu cu
    rw [hsign] at hround
    rw [isFinite_of_isFinite hround.sign]
    exact ⟨hround.result, by simp [UnpackedFloat.isFinite]⟩

theorem cut_div (m : ℕ) {n : ℕ} (hn : 0 < n) (t : ℤ) :
    Cut (m * 2 ^ t / n) (m / n) t (accuracyOfFraction (m % n) n) := by
  have hpos := two_zpow_pos t
  have hn' : (0 : ℚ) < n := by exact_mod_cast hn
  have hsplit : (m : ℚ) = n * (m / n : ℕ) + (m % n : ℕ) := by
    exact_mod_cast (Nat.div_add_mod m n).symm
  have hunits : (m : ℚ) * 2 ^ t / n = ((m / n : ℕ) + (m % n : ℕ) / n) * 2 ^ t := by
    rw [hsplit]
    field_simp
  have hrest : ((m % n : ℕ) : ℚ) / n < 1 := by
    rw [div_lt_one hn']
    exact_mod_cast Nat.mod_lt m hn
  rw [hunits, accuracyOfFraction]
  split
  · rename_i hzero
    rw [Cut, hzero, Nat.cast_zero, zero_div, add_zero]
  · rename_i hzero
    have hsome : (0 : ℚ) < (m % n : ℕ) / n := by
      have hrest' : (0 : ℚ) < (m % n : ℕ) := by exact_mod_cast Nat.pos_of_ne_zero hzero
      positivity
    obtain hlt | heq | hgt := lt_trichotomy (2 * (m % n)) n
    · have hhalf : ((m % n : ℕ) : ℚ) / n < 1 / 2 := by
        rw [div_lt_div_iff₀ hn' two_pos, one_mul, mul_comm]
        exact_mod_cast hlt
      rw [Nat.compare_eq_lt.mpr hlt]
      exact ⟨by gcongr; linarith, by gcongr⟩
    · have hhalf : ((m % n : ℕ) : ℚ) / n = 1 / 2 := by
        rw [div_eq_div_iff hn'.ne' two_ne_zero, one_mul, mul_comm]
        exact_mod_cast heq
      rw [Nat.compare_eq_eq.mpr heq, Cut, hhalf]
    · have hhalf : 1 / 2 < ((m % n : ℕ) : ℚ) / n := by
        rw [div_lt_div_iff₀ two_pos hn', one_mul, mul_comm _ (2 : ℚ)]
        exact_mod_cast hgt
      rw [Nat.compare_eq_gt.mpr hgt]
      exact ⟨by gcongr, by gcongr⟩

theorem rounded_div (s : Sign) {m n : ℕ} (hm : 0 < m) (hn : 0 < n) (e f : ℤ) :
    RoundedToNearest s (m * 2 ^ e / (n * 2 ^ f))
      (roundWithAccuracy Format.binary64 s (divCore Format.binary64 m e n f).1
        (divCore Format.binary64 m e n f).2.1 (divCore Format.binary64 m e n f).2.2) := by
  unfold divCore
  dsimp only
  generalize htarget : Format.binary64.targetExponent (totalExponent m e - totalExponent n f) = g
  generalize ht : min (e - f) g = t
  have hle : t ≤ e - f := ht ▸ min_le_left _ _
  have hvalue := shift_to_common m hle
  have hlog := log2_shiftLeft hm (e - f - t).toNat
  generalize hshift : m <<< (e - f - t).toNat = i at *
  have hsize : (m : ℚ) * 2 ^ e / (n * 2 ^ f) = i * 2 ^ t / n := by
    rw [hvalue, zpow_sub₀ two_ne_zero]
    field_simp
  rw [hsize]
  refine roundedToNearest_roundWithAccuracy s (cut_div i hn t) ?_
  -- The dividend was shifted far enough for a quotient of 53 bits.
  by_cases hmin : t ≤ -1074
  · exact .inr hmin
  · left
    have hbits : n.log2 + 53 ≤ i.log2 := by
      simp only [Format.targetExponent, totalExponent, Format.mantissaBits, Format.minExponent]
        at htarget
      omega
    have hi : i ≠ 0 := by
      rintro rfl
      simp at hbits
    have hquotient : 2 ^ 52 ≤ i / n := by
      rw [Nat.le_div_iff_mul_le hn]
      calc 2 ^ 52 * n ≤ 2 ^ 52 * 2 ^ (n.log2 + 1) := Nat.mul_le_mul_left _ Nat.lt_log2_self.le
        _ = 2 ^ (n.log2 + 53) := by ring
        _ ≤ 2 ^ i.log2 := Nat.pow_le_pow_right two_pos hbits
        _ ≤ i := Nat.log2_self_le hi
    rw [Nat.le_log2 (by omega)]
    exact hquotient

theorem result_div (hu : NonNegative u) {n : ℕ} (hn : 0 < n) (f : ℤ) :
    Result (magnitude u / (n * 2 ^ f))
        (UnpackedFloat.div Format.binary64 u (.finite .positive n f hn)) ∧
      ((UnpackedFloat.div Format.binary64 u (.finite .positive n f hn)).isFinite = true ↔
        u.isFinite = true) := by
  have hzero : (0 : ℚ) ≤ 0 / (n * 2 ^ f) := by simp
  cases u with
  | notANumber => cases hu
  | infinity s =>
    cases hu
    exact ⟨result_of_le rfl trivial hzero, Iff.rfl⟩
  | zero s => exact ⟨result_of_le trivial trivial hzero, Iff.rfl⟩
  | finite s m e hm =>
    cases hu
    have hround := rounded_div .positive hm hn e f
    exact ⟨hround.result, iff_of_true (isFinite_of_isFinite hround.sign) rfl⟩

end Products

section Differences

variable {u w : UnpackedFloat}

theorem sub_bounded (hu : NonNegative u) (hfinite : u.isFinite = true) (hw : NonNegative w)
    (cu : Canonical u) (cw : Canonical w) :
    UnpackedFloat.sub Format.binary64 u w ≠ .notANumber ∧
      Canonical (UnpackedFloat.sub Format.binary64 u w) ∧
      ((UnpackedFloat.sub Format.binary64 u w).isFinite = true ↔ w.isFinite = true) ∧
      ∀ c, Representable c → magnitude u ≤ c → magnitude w ≤ c →
        magnitude (UnpackedFloat.sub Format.binary64 u w) ≤ c := by
  cases u with
  | notANumber => cases hu
  | infinity s => cases hfinite
  | zero s =>
    cases w with
    | notANumber => cases hw
    | infinity t => exact ⟨nofun, trivial, Iff.rfl, fun c _ hc _ => hc⟩
    | zero t =>
      have hzero : ∃ r, UnpackedFloat.sub Format.binary64 (.zero s) (.zero t) = .zero r := by
        cases s <;> cases t <;> exact ⟨_, rfl⟩
      obtain ⟨r, hr⟩ := hzero
      rw [hr]
      exact ⟨nofun, trivial, Iff.rfl, fun c _ hc _ => hc⟩
    | finite t n f hn => exact ⟨nofun, cw, Iff.rfl, fun c _ _ hc => hc⟩
  | finite s m e hm =>
    cases w with
    | notANumber => cases hw
    | infinity t =>
      exact ⟨nofun, trivial, Iff.rfl, fun c _ hc _ => (magnitude_nonneg _).trans hc⟩
    | zero t => exact ⟨nofun, cu, Iff.rfl, fun c _ hc _ => hc⟩
    | finite t n f hn =>
      cases hu
      cases hw
      obtain ⟨s, hround⟩ := rounded_sub hm hn e f
      have hfin := isFinite_of_isFinite hround.sign
      refine ⟨fun h => ?_, hround.canonical, iff_of_true hfin rfl, fun c hc hcu hcw => ?_⟩
      · rw [h] at hfin
        cases hfin
      · refine hround.upper c hc (abs_sub_le_iff.mpr ⟨?_, ?_⟩)
        · exact (sub_le_self _ (magnitude_nonneg (.finite .positive n f hn))).trans hcu
        · exact (sub_le_self _ (magnitude_nonneg (.finite .positive m e hm))).trans hcw

end Differences

section Roots

variable {u : UnpackedFloat}

theorem representable_two_pow (k : ℕ) : Representable (2 ^ k) :=
  ⟨1, k, by norm_num, by omega, by simp⟩

/-- The root of `i` is found up to one unit; where it lies in between does not matter here. -/
theorem approximates_sqrt (i : ℕ) (t : ℤ) : ∃ v : ℚ, v < (i.sqrt + 1) * 2 ^ t ∧
    Approximates v i.sqrt t (if i - i.sqrt * i.sqrt = 0 then .exact
      else .inexact (if i - i.sqrt * i.sqrt ≤ i.sqrt then .lt else .gt)) := by
  have hpos := two_zpow_pos t
  split
  · exact ⟨i.sqrt * 2 ^ t, by linarith, rfl⟩
  · exact ⟨(i.sqrt + 1 / 2) * 2 ^ t, by linarith, by linarith, by linarith⟩

theorem root_lt {i : ℕ} {t : ℤ} (h : (i : ℚ) * 2 ^ (2 * t) < 2 ^ 1024) :
    (i.sqrt : ℚ) * 2 ^ t < 2 ^ 512 := by
  have hle : (i.sqrt : ℚ) * i.sqrt ≤ i := by exact_mod_cast Nat.sqrt_le i
  have hsquare : ((i.sqrt : ℚ) * 2 ^ t) ^ 2 < (2 ^ 512) ^ 2 :=
    calc ((i.sqrt : ℚ) * 2 ^ t) ^ 2 = i.sqrt * i.sqrt * 2 ^ (2 * t) := by
          rw [two_mul, zpow_add₀ two_ne_zero]
          ring
      _ ≤ i * 2 ^ (2 * t) := mul_le_mul_of_nonneg_right hle (two_zpow_pos _).le
      _ < (2 ^ 512) ^ 2 := by
          rw [← pow_mul]
          exact h
  exact lt_of_pow_lt_pow_left₀ 2 (by positivity) hsquare

theorem le_log2_sqrt {i : ℕ} (hi : 0 < i) (h : 104 ≤ i.log2) : 52 ≤ i.sqrt.log2 := by
  rw [Nat.le_log2 (Nat.sqrt_pos.mpr hi).ne', Nat.le_sqrt, ← pow_add]
  exact (Nat.pow_le_pow_right two_pos h).trans (Nat.log2_self_le hi.ne')

theorem rounded_sqrt {m : ℕ} (hm : 0 < m) (e : ℤ) (hsize : (m : ℚ) * 2 ^ e < 2 ^ 1024) :
    ∃ v ≤ (2 : ℚ) ^ 513, Rounded .positive v
      (roundWithAccuracy Format.binary64 .positive (sqrtCore Format.binary64 m e).1
        (sqrtCore Format.binary64 m e).2.1 (sqrtCore Format.binary64 m e).2.2) := by
  have hhalf : e.ediv 2 = e / 2 := rfl
  have hhalf' : (totalExponent m e + 1).ediv 2 = (totalExponent m e + 1) / 2 := rfl
  unfold sqrtCore
  rw [hhalf, hhalf']
  dsimp only
  generalize htarget : Format.binary64.targetExponent ((totalExponent m e + 1) / 2) = g
  generalize ht : min (e / 2) g = t
  have hle : 2 * t ≤ e := by omega
  have hvalue := shift_to_common m hle
  have hlog := log2_shiftLeft hm (e - 2 * t).toNat
  have hi : 0 < m <<< (e - 2 * t).toNat := Nat.shiftLeft_pos_iff.mpr hm
  generalize m <<< (e - 2 * t).toNat = i at *
  obtain ⟨v, hv, happrox⟩ := approximates_sqrt i t
  have hpos := two_zpow_pos t
  have hroot : (1 : ℚ) ≤ i.sqrt := by exact_mod_cast Nat.sqrt_pos.mpr hi
  have hbound : (i.sqrt : ℚ) * 2 ^ t < 2 ^ 512 := root_lt (hvalue ▸ hsize)
  refine ⟨v, ?_, rounded_roundWithAccuracy .positive happrox ?_⟩
  · calc v ≤ (i.sqrt + 1) * 2 ^ t := hv.le
      _ ≤ 2 * (i.sqrt * 2 ^ t) := by nlinarith
      _ ≤ 2 * 2 ^ 512 := mul_le_mul_of_nonneg_left hbound.le zero_le_two
      _ = 2 ^ 513 := (pow_succ' 2 512).symm
  · by_cases hmin : t ≤ -1074
    · exact .inr hmin
    · refine .inl (le_log2_sqrt hi ?_)
      simp only [Format.targetExponent, totalExponent, Format.mantissaBits, Format.minExponent]
        at htarget
      omega

theorem result_sqrt (hu : NonNegative u) (cu : Canonical u) (hsize : magnitude u < 2 ^ 1024) :
    Result (2 ^ 513) (UnpackedFloat.sqrt Format.binary64 u) ∧
      ((UnpackedFloat.sqrt Format.binary64 u).isFinite = true ↔ u.isFinite = true) := by
  cases u with
  | notANumber => cases hu
  | infinity s =>
    cases hu
    exact ⟨result_of_le rfl trivial (by positivity), Iff.rfl⟩
  | zero s => exact ⟨result_of_le trivial trivial (by positivity), Iff.rfl⟩
  | finite s m e hm =>
    cases hu
    obtain ⟨v, hv, hround⟩ := rounded_sqrt hm e hsize
    refine ⟨⟨hround.sign.nonNegative, hround.canonical, fun c hc hle => ?_⟩, ?_⟩
    · exact hround.upper c hc (hv.trans hle)
    · exact iff_of_true (isFinite_of_isFinite hround.sign) rfl

end Roots

end CalibratedSweep.Double
