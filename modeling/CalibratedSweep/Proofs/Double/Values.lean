import CalibratedSweep.Proofs.Double.Numbers

namespace CalibratedSweep.Double

open Float.Model (Format UnpackedFloat)
open Float.Model.UnpackedFloat

structure HasValue (x : Float) (v : ℚ) : Prop where
  nonneg : 0.0 ≤ x
  isFinite : x.isFinite = true
  size : size x = v

/-- The double of the value `v`, or infinity if `v` is too large. -/
inductive Holds (x : Float) (v : ℚ) : Prop
  | value (h : HasValue x v)
  | infinite (hv : 2 ^ 1024 ≤ v) (h : parts x = .infinity .positive)

section Cases

variable {x y : Float} {v w : ℚ} {u : UnpackedFloat}

theorem hasValue_size (hx : 0.0 ≤ x) (hf : x.isFinite = true) : HasValue x (Double.size x) :=
  ⟨hx, hf, rfl⟩

theorem HasValue.representable (h : HasValue x v) : Representable v := h.size ▸ representable_size x

theorem HasValue.value_nonneg (h : HasValue x v) : 0 ≤ v := h.representable.nonneg

theorem HasValue.lt (h : HasValue x v) : v < 2 ^ 1024 := h.size ▸ size_lt x

theorem HasValue.cases (h : HasValue x v) : (∃ s, parts x = .zero s) ∧ v = 0 ∨
    ∃ m e, ∃ hm : 0 < m, parts x = .finite .positive m e hm ∧ (m : ℚ) * 2 ^ e = v := by
  obtain ⟨hx, hf, hsize⟩ := h
  rw [nonneg_iff] at hx
  rw [← isFinite_parts] at hf
  unfold Double.size at hsize
  generalize parts x = u at *
  cases u with
  | zero s => exact .inl ⟨⟨s, rfl⟩, hsize.symm⟩
  | finite s m e hm =>
    cases hx
    exact .inr ⟨m, e, hm, rfl, hsize⟩
  | infinity s => cases hf
  | notANumber => cases hx

theorem hasValue_of_parts {m : ℕ} {e : ℤ} {hm : 0 < m} (h : parts x = .finite .positive m e hm) :
    HasValue x (m * 2 ^ e) := by
  refine ⟨nonneg_iff.mpr ?_, ?_, ?_⟩
  · rw [h]
    rfl
  · rw [← isFinite_parts, h]
    rfl
  · rw [Double.size, h, magnitude]

theorem hasValue_zero {s : Sign} (h : parts x = .zero s) : HasValue x 0 := by
  refine ⟨nonneg_iff.mpr ?_, ?_, ?_⟩
  · rw [h]
    trivial
  · rw [← isFinite_parts, h]
    rfl
  · rw [Double.size, h]
    rfl

theorem float_eq_of_parts (h : parts x = parts y) : x = y := by
  obtain ⟨⟨a, ha⟩⟩ := x
  obtain ⟨⟨b, hb⟩⟩ := y
  have hbits : a.toBitVec = b.toBitVec := (unpack_inj_of_valid ha hb).mp h
  obtain rfl : a = b := UInt64.toBitVec_inj.mp hbits
  rfl

theorem Canonical.eq_place {s : Sign} {m : ℕ} {e : ℤ} {hm : 0 < m}
    (hc : Canonical (.finite s m e hm)) : e = place (m * 2 ^ e) := by
  obtain ⟨hhi, hlo, hnormal⟩ := hc
  have hlog := log2_le_of_lt hhi
  have hbits : 52 ≤ m.log2 ∨ e = -1074 := hnormal.imp_left (Nat.le_log2 hm.ne').mpr
  have hfine : Fine m e := by
    unfold Fine
    omega
  have hpos : (0 : ℚ) < m * 2 ^ e := mul_pos (by exact_mod_cast hm) (two_zpow_pos e)
  rw [← target_eq_place (a := .exact) rfl hfine hpos, target]
  omega

theorem HasValue.eq (hx : HasValue x v) (hy : HasValue y v) (hv : 0 < v) : x = y := by
  obtain ⟨-, rfl⟩ | ⟨m, e, hm, hpx, hmx⟩ := hx.cases
  · exact absurd hv (lt_irrefl 0)
  obtain ⟨-, rfl⟩ | ⟨n, f, hn, hpy, hny⟩ := hy.cases
  · exact absurd hv (lt_irrefl 0)
  have cx : Canonical (.finite .positive m e hm) := hpx ▸ canonical_parts x
  have cy : Canonical (.finite .positive n f hn) := hpy ▸ canonical_parts y
  obtain rfl : e = f := by rw [cx.eq_place, cy.eq_place, hmx, hny]
  obtain rfl : m = n := by
    have hsame := mul_right_cancel₀ (two_zpow_pos e).ne' (hmx.trans hny.symm)
    exact_mod_cast hsame
  exact float_eq_of_parts (hpx.trans hpy.symm)

theorem Holds.hasValue (h : Holds x v) (hv : v < 2 ^ 1024) : HasValue x v := by
  cases h with
  | value h => exact h
  | infinite hv' h => exact absurd hv hv'.not_gt

theorem Holds.hasValue_of_le {k : ℕ} (h : Holds x v) (hk : k < 1024) (hv : v ≤ 2 ^ k) : HasValue x v :=
  h.hasValue (hv.trans_lt (pow_lt_pow_right₀ one_lt_two hk))

theorem Holds.isFinite_iff (h : Holds x v) : x.isFinite = true ↔ v < 2 ^ 1024 := by
  cases h with
  | value h => exact iff_of_true h.isFinite h.lt
  | infinite hv h =>
    rw [← isFinite_parts, h]
    exact iff_of_false nofun hv.not_gt

theorem Holds.nonneg (h : Holds x v) : 0.0 ≤ x := by
  cases h with
  | value h => exact h.nonneg
  | infinite hv h =>
    rw [nonneg_iff, h]
    rfl

theorem magnitude_lt {m : ℕ} {e : ℤ} (hm : m < 2 ^ 53) (he : e ≤ 971) : (m : ℚ) * 2 ^ e < 2 ^ 1024 := by
  have hm' : (m : ℚ) < 2 ^ 53 := by exact_mod_cast hm
  calc (m : ℚ) * 2 ^ e < 2 ^ 53 * 2 ^ e := mul_lt_mul_of_pos_right hm' (two_zpow_pos e)
    _ ≤ 2 ^ 53 * 2 ^ (971 : ℤ) :=
        mul_le_mul_of_nonneg_left (zpow_le_zpow_right₀ one_le_two he) (by positivity)
    _ = 2 ^ 1024 := (pow_add 2 53 971).symm

theorem RoundedToNearest.holds (h : RoundedToNearest .positive v u)
    (hx : parts x = (Float.Model.pack u).unpack) : Holds x (nearest v) := by
  obtain ⟨⟨hc, hsign, -, -⟩, hsize⟩ := h
  rw [unpack_pack hc] at hx
  obtain hv | hv := lt_or_ge (nearest v) (2 ^ 1024)
  · rw [packed_eq_self hc (hsize.trans_lt hv)] at hx
    refine .value ⟨nonneg_iff.mpr ?_, ?_, ?_⟩
    · rw [hx]
      exact hsign.nonNegative
    · rw [← isFinite_parts, hx]
      exact isFinite_of_isFinite hsign
    · rw [Double.size, hx, hsize]
  · refine .infinite hv ?_
    rw [← hsize] at hv
    cases u with
    | zero s => exact absurd (pow_pos two_pos 1024) hv.not_gt
    | finite s m e hm =>
      cases hsign
      rw [hx, packed, if_neg fun he => (magnitude_lt hc.1 he).not_ge hv]
    | infinity s | notANumber => cases hsign

theorem holds_zero {s : Sign} (h : parts x = (Float.Model.pack (.zero s)).unpack) :
    Holds x (nearest 0) := by
  have hzero : parts x = .zero s := h.trans (unpack_pack trivial)
  rw [nearest_zero]
  exact .value (hasValue_zero hzero)

theorem nearest_le_two_pow {k : ℕ} (hv : 0 ≤ v) (h : v ≤ 2 ^ k) : nearest v ≤ 2 ^ k :=
  nearest_le hv (representable_two_pow k) h

end Cases

section Operations

variable {x y : Float} {v w : ℚ}

theorem eq_of_pack_parts (h : parts x = (Float.Model.pack (parts y)).unpack) : x = y := by
  obtain ⟨hc, hpacked⟩ := canonical_unpack y.toModel
  exact float_eq_of_parts (h.trans ((unpack_pack hc).trans hpacked))

theorem parts_add (x y : Float) : parts (x + y) =
    (Float.Model.pack (UnpackedFloat.add Format.binary64 (parts x) (parts y))).unpack := rfl

theorem parts_mul (x y : Float) : parts (x * y) =
    (Float.Model.pack (UnpackedFloat.mul Format.binary64 (parts x) (parts y))).unpack := rfl

theorem parts_div (x y : Float) : parts (x / y) =
    (Float.Model.pack (UnpackedFloat.div Format.binary64 (parts x) (parts y))).unpack := rfl

theorem HasValue.holds_nearest (h : HasValue x v) : Holds x (nearest v) := by
  rw [nearest_of_representable h.representable]
  exact .value h

theorem holds_add (hx : HasValue x v) (hy : HasValue y w) : Holds (x + y) (nearest (v + w)) := by
  have hsum := parts_add x y
  obtain ⟨⟨s, hpx⟩, rfl⟩ | ⟨m, e, hm, hpx, rfl⟩ := hx.cases <;>
    obtain ⟨⟨t, hpy⟩, rfl⟩ | ⟨n, f, hn, hpy, rfl⟩ := hy.cases <;> rw [hpx, hpy] at hsum
  · rw [add_zero]
    obtain h | ⟨-, r, h⟩ := add_zero_cases s (.zero t) <;> rw [h] at hsum <;> exact holds_zero hsum
  · have hself : x + y = y := eq_of_pack_parts (hpy ▸ hsum)
    rw [hself, zero_add]
    exact hy.holds_nearest
  · have hself : x + y = x := eq_of_pack_parts (hpx ▸ hsum)
    rw [hself, add_zero]
    exact hx.holds_nearest
  · exact (rounded_add hm hn e f).holds hsum

theorem holds_mul (hx : HasValue x v) (hy : HasValue y w) : Holds (x * y) (nearest (v * w)) := by
  have hproduct := parts_mul x y
  obtain ⟨⟨s, hpx⟩, rfl⟩ | ⟨m, e, hm, hpx, rfl⟩ := hx.cases <;>
    obtain ⟨⟨t, hpy⟩, rfl⟩ | ⟨n, f, hn, hpy, rfl⟩ := hy.cases <;> rw [hpx, hpy] at hproduct
  · rw [zero_mul]
    exact holds_zero hproduct
  · rw [zero_mul]
    exact holds_zero hproduct
  · rw [mul_zero]
    exact holds_zero hproduct
  · have cx : Canonical (.finite .positive m e hm) := hpx ▸ canonical_parts x
    have cy : Canonical (.finite .positive n f hn) := hpy ▸ canonical_parts y
    exact RoundedToNearest.holds (rounded_mul cx cy : RoundedToNearest .positive _ _) hproduct

theorem holds_div (hx : HasValue x v) (hy : HasValue y w) (hw : 0 < w) :
    Holds (x / y) (nearest (v / w)) := by
  have hquotient := parts_div x y
  obtain ⟨-, rfl⟩ | ⟨n, f, hn, hpy, rfl⟩ := hy.cases
  · exact absurd hw (lt_irrefl 0)
  obtain ⟨⟨s, hpx⟩, rfl⟩ | ⟨m, e, hm, hpx, rfl⟩ := hx.cases <;> rw [hpx, hpy] at hquotient
  · rw [zero_div]
    exact holds_zero hquotient
  · exact (rounded_div .positive hm hn e f).holds hquotient

theorem hasValue_toFloat (n : UInt64) : HasValue n.toFloat (nearest n.toNat) := by
  obtain ⟨s, hround, hsign⟩ := rounded_normalize n.toNat 0
  obtain rfl := hsign (Int.natCast_nonneg _)
  have hsize : ((|(n.toNat : ℤ)| : ℤ) : ℚ) * 2 ^ (0 : ℤ) = n.toNat := by
    rw [zpow_zero, mul_one, Nat.abs_cast, Int.cast_natCast]
  rw [hsize] at hround
  have hword : (n.toNat : ℚ) ≤ 2 ^ 64 := by exact_mod_cast n.toNat_lt.le
  exact (hround.holds rfl).hasValue_of_le (by norm_num)
    (nearest_le_two_pow n.toNat.cast_nonneg hword)

theorem hasValue_ofNat {n : ℕ} (hn : 0 < n) (hsmall : n < 2 ^ 53) : HasValue (Float.ofNat n) n := by
  obtain ⟨m, e, hm, hparts, hvalue⟩ := parts_ofNat hn hsmall
  exact hvalue ▸ hasValue_of_parts hparts

end Operations

section Cutting

variable {x : Float} {v : ℚ}

theorem roundToInt_positive (m : ℕ) (e : ℤ) :
    roundToInt .positive m e = (⌊(m : ℚ) * 2 ^ e⌋₊ : ℕ) := by
  have hcut : roundToInt .positive m e = (m <<< e.toNat / 2 ^ (max e 0 - e).toNat : ℕ) := by
    simp only [roundToInt, decreaseExponent, shiftToExponent, Sign.apply, mantissa_shiftRight,
      mantissa_ofMantissaAndAccuracy, sub_zero]
    congr 4
    omega
  rw [hcut, Nat.cast_inj, Nat.shiftLeft_eq]
  obtain ⟨k, rfl | rfl⟩ := e.eq_nat_or_neg
  · have hwhole : ((m : ℚ) * 2 ^ (k : ℤ)) = (m * 2 ^ k : ℕ) := by
      rw [zpow_natCast]
      push_cast
      rfl
    have hnone : (max (k : ℤ) 0 - k).toNat = 0 := by omega
    rw [hwhole, Nat.floor_natCast, hnone, Int.toNat_natCast, pow_zero, Nat.div_one]
  · have hquotient : ((m : ℚ) * 2 ^ (-k : ℤ)) = m / (2 ^ k : ℕ) := by
      rw [zpow_neg, zpow_natCast, ← div_eq_mul_inv]
      push_cast
      rfl
    have hnone : (-k : ℤ).toNat = 0 := by omega
    have hshift : (max (-k : ℤ) 0 - -k).toNat = k := by omega
    rw [hquotient, Nat.floor_div_natCast, Nat.floor_natCast, hnone, hshift, pow_zero, mul_one]

theorem toNat_toUInt64 (h : HasValue x v) (hv : v < 2 ^ 64) : x.toUInt64.toNat = ⌊v⌋₊ := by
  have hcut : x.toUInt64 =
      UInt64.ofNatClamp (UnpackedFloat.toInt 0 (UInt64.size - 1) (parts x)).toNat := rfl
  have hfloor : ⌊v⌋₊ < UInt64.size := (Nat.floor_lt h.value_nonneg).mpr (by exact_mod_cast hv)
  have hint : UnpackedFloat.toInt 0 (UInt64.size - 1) (parts x) = (⌊v⌋₊ : ℕ) := by
    obtain ⟨⟨s, hpx⟩, rfl⟩ | ⟨m, e, hm, hpx, rfl⟩ := h.cases <;> rw [hpx]
    · rw [Nat.floor_zero]
      rfl
    · exact roundToInt_positive m e
  rw [hcut, hint, Int.toNat_natCast, UInt64.ofNatClamp, dif_pos hfloor, UInt64.toNat_ofNatLT]

end Cutting

end CalibratedSweep.Double
