import CalibratedSweep.Proofs.Double.Arithmetic
/-!
The operations of doubles. What comes out of numbers that are not negative is compared with bounds
that are doubles themselves: below the largest of them nothing becomes an infinity.
-/

namespace CalibratedSweep.Double

open Float.Model (Format UnpackedFloat)
open Float.Model.UnpackedFloat (Sign)

def parts (x : Float) : UnpackedFloat := x.toModel.unpack

def size (x : Float) : ℚ := magnitude (parts x)

theorem isFinite_parts (x : Float) : (parts x).isFinite = x.isFinite := rfl

theorem canonical_parts (x : Float) : Canonical (parts x) := (canonical_unpack x.toModel).1

theorem size_nonneg (x : Float) : 0 ≤ size x := magnitude_nonneg (parts x)

theorem size_cases (x : Float) :
    ∃ m : ℕ, ∃ e : ℤ, m < 2 ^ 53 ∧ -1074 ≤ e ∧ e ≤ 971 ∧ size x = m * 2 ^ e := by
  obtain ⟨hc, hpacked⟩ := canonical_unpack x.toModel
  unfold size parts
  generalize x.toModel.unpack = u at *
  cases u with
  | finite s m e hm =>
    obtain ⟨hhi, hlo, -⟩ := hc
    refine ⟨m, e, hhi, hlo, ?_, rfl⟩
    by_contra he
    rw [packed, if_neg he] at hpacked
    cases hpacked
  | _ => exact ⟨0, 0, by norm_num, by norm_num, by norm_num, by simp [magnitude]⟩

theorem representable_size (x : Float) : Representable (size x) := by
  obtain ⟨m, e, hm, he, -, hsize⟩ := size_cases x
  exact ⟨m, e, hm, he, hsize⟩

theorem size_lt (x : Float) : size x < 2 ^ 1024 := by
  obtain ⟨m, e, hm, -, he, hsize⟩ := size_cases x
  have hm' : (m : ℚ) < 2 ^ 53 := by exact_mod_cast hm
  calc size x = m * 2 ^ e := hsize
    _ < 2 ^ 53 * 2 ^ e := mul_lt_mul_of_pos_right hm' (two_zpow_pos e)
    _ ≤ 2 ^ 53 * 2 ^ (971 : ℤ) :=
        mul_le_mul_of_nonneg_left (zpow_le_zpow_right₀ one_le_two he) (by positivity)
    _ = 2 ^ 1024 := (pow_add 2 53 971).symm

section Order

variable {x y : Float}

theorem le_iff : x ≤ y ↔ (parts x).le (parts y) = true := by
  change decide (x.toModel ≤ y.toModel) = true ↔ _
  rw [decide_eq_true_eq]
  exact Iff.rfl

theorem nonneg_iff : 0.0 ≤ x ↔ NonNegative (parts x) := by
  have hzero : parts 0.0 = .zero .positive := rfl
  rw [le_iff, hzero]
  generalize parts x = u
  cases u with
  | notANumber => exact iff_of_false nofun nofun
  | zero s => exact iff_of_true rfl trivial
  | infinity s | finite s m e hm => cases s <;> simp [NonNegative, UnpackedFloat.le, UnpackedFloat.compare]

theorem lt_iff : x < y ↔ (parts x).lt (parts y) = true := by
  change decide (x.toModel < y.toModel) = true ↔ _
  rw [decide_eq_true_eq]
  exact Iff.rfl

theorem not_lt_zero (hx : 0.0 ≤ x) : ¬x < 0.0 := by
  have hzero : parts 0.0 = .zero .positive := rfl
  rw [nonneg_iff] at hx
  rw [lt_iff, hzero]
  generalize parts x = u at *
  cases u with
  | notANumber => cases hx
  | zero s => exact nofun
  | infinity s | finite s m e hm =>
    cases hx
    exact nofun

theorem nonneg_of_pos (hx : 0.0 < x) : 0.0 ≤ x := by
  have hzero : parts 0.0 = .zero .positive := rfl
  rw [lt_iff, hzero] at hx
  rw [nonneg_iff]
  generalize parts x = u at *
  cases u with
  | notANumber => cases hx
  | zero s => trivial
  | infinity s | finite s m e hm =>
    cases s with
    | positive => rfl
    | negative => cases hx

theorem value_le {s t : Sign} {m n : ℕ} {e f : ℤ} {hm : 0 < m} {hn : 0 < n}
    (cu : Canonical (.finite s m e hm)) (cw : Canonical (.finite t n f hn))
    (h : ((compare e f).then (compare m n)).isLE = true) : (m : ℚ) * 2 ^ e ≤ n * 2 ^ f := by
  obtain ⟨hhi, hlo, -⟩ := cu
  obtain ⟨-, -, hnormal⟩ := cw
  obtain hlt | rfl | hgt := lt_trichotomy e f
  · have hm' : (m : ℚ) ≤ 2 ^ 53 := by exact_mod_cast hhi.le
    have hn' : (2 : ℚ) ^ 52 ≤ n := by exact_mod_cast hnormal.resolve_right (by omega)
    have hnext : (2 : ℚ) ^ (e + 1) ≤ 2 ^ f := zpow_le_zpow_right₀ one_le_two hlt
    rw [two_zpow_succ] at hnext
    have hpos := two_zpow_pos e
    calc (m : ℚ) * 2 ^ e ≤ 2 ^ 53 * 2 ^ e := mul_le_mul_of_nonneg_right hm' hpos.le
      _ = 2 ^ 52 * (2 * 2 ^ e) := by ring
      _ ≤ n * 2 ^ f := mul_le_mul hn' hnext (by positivity) (by positivity)
  · have hsame : compare e e = .eq := Int.compare_eq_eq.mpr rfl
    rw [hsame] at h
    have hle : (m : ℚ) ≤ n := by exact_mod_cast Nat.isLE_compare.mp h
    exact mul_le_mul_of_nonneg_right hle (two_zpow_pos e).le
  · rw [Int.compare_eq_gt.mpr hgt] at h
    cases h

theorem size_le (hx : 0.0 ≤ x) (hy : y.isFinite = true) (h : x ≤ y) :
    x.isFinite = true ∧ size x ≤ size y := by
  have cx := canonical_parts x
  have cy := canonical_parts y
  rw [nonneg_iff] at hx
  rw [le_iff] at h
  rw [← isFinite_parts] at hy ⊢
  unfold size
  generalize parts x = u at *
  generalize parts y = w at *
  cases u with
  | notANumber => cases hx
  | infinity s =>
    cases hx
    cases w with
    | infinity t => cases hy
    | _ => cases h
  | zero s => exact ⟨rfl, magnitude_nonneg w⟩
  | finite s m e hm =>
    cases hx
    refine ⟨rfl, ?_⟩
    cases w with
    | finite t n f hn =>
      cases t with
      | positive => exact value_le cx cy h
      | negative => cases h
    | infinity t => cases hy
    | _ => cases h

end Order

section Results

variable {v c : ℚ} {u : UnpackedFloat} {x y : Float}

theorem Result.parts_eq (h : Result v u) (hx : parts x = (Float.Model.pack u).unpack) :
    parts x = packed u := by
  rw [hx, unpack_pack h.canonical]

theorem Result.nonneg (h : Result v u) (hx : parts x = (Float.Model.pack u).unpack) : 0.0 ≤ x := by
  rw [nonneg_iff, h.parts_eq hx]
  exact h.nonNegative.packed

theorem Result.bounded (h : Result v u) (hx : parts x = (Float.Model.pack u).unpack)
    (hc : Representable c) (hv : v ≤ c) (hmax : c < 2 ^ 1024) :
    x.isFinite = u.isFinite ∧ size x ≤ c := by
  have hsize := h.upper c hc hv
  have hparts : parts x = u := by
    rw [h.parts_eq hx, packed_eq_self h.canonical (hsize.trans_lt hmax)]
  rw [← isFinite_parts, size, hparts]
  exact ⟨rfl, hsize⟩

theorem nonneg_add (hx : 0.0 ≤ x) (hy : 0.0 ≤ y) : 0.0 ≤ x + y :=
  (result_add (nonneg_iff.mp hx) (nonneg_iff.mp hy) (canonical_parts x) (canonical_parts y)).1.nonneg
    rfl

theorem bounded_add (hx : 0.0 ≤ x) (hy : 0.0 ≤ y) (fx : x.isFinite = true) (fy : y.isFinite = true)
    (hc : Representable c) (hs : size x + size y ≤ c) (hmax : c < 2 ^ 1024) :
    (x + y).isFinite = true ∧ size (x + y) ≤ c := by
  obtain ⟨hresult, hfinite⟩ := result_add (nonneg_iff.mp hx) (nonneg_iff.mp hy) (canonical_parts x)
    (canonical_parts y)
  obtain ⟨hsame, hsize⟩ := hresult.bounded (x := x + y) rfl hc hs hmax
  exact ⟨hsame.trans (hfinite.mpr ⟨fx, fy⟩), hsize⟩

end Results

section Counts

theorem Rounded.exact {v : ℚ} {u : UnpackedFloat} {x : Float} (h : Rounded .positive v u)
    (hv : Representable v) (hpos : 0 < v) (hmax : v < 2 ^ 1024)
    (hx : parts x = (Float.Model.pack u).unpack) :
    ∃ m e, ∃ hm : 0 < m, parts x = .finite .positive m e hm ∧ (m : ℚ) * 2 ^ e = v := by
  have hsize := h.magnitude_eq hv
  have hsign := h.sign
  rw [unpack_pack h.canonical, packed_eq_self h.canonical (hsize.trans_lt hmax)] at hx
  cases u with
  | zero s => exact absurd hsize hpos.ne
  | finite s m e hm =>
    cases hsign
    exact ⟨m, e, hm, hx, hsize⟩
  | infinity s | notANumber => cases hsign

variable {n : ℕ}

theorem representable_natCast (hsmall : n < 2 ^ 53) : Representable n :=
  ⟨n, 0, hsmall, by norm_num, by rw [zpow_zero, mul_one]⟩

theorem representable_natCast_of_le (hn : n ≤ 2 ^ 53) : Representable n := by
  obtain hlt | rfl := hn.lt_or_eq
  · exact representable_natCast hlt
  · rw [Nat.cast_pow, Nat.cast_ofNat]
    exact representable_two_pow 53

theorem natCast_lt (hsmall : n < 2 ^ 53) : (n : ℚ) < 2 ^ 1024 :=
  calc (n : ℚ) < 2 ^ 53 := by exact_mod_cast hsmall
    _ ≤ 2 ^ 1024 := pow_le_pow_right₀ one_le_two (by norm_num)

theorem parts_toFloat (hn : 0 < n) (hsmall : n < 2 ^ 53) :
    ∃ m e, ∃ hm : 0 < m, parts n.toUInt64.toFloat = .finite .positive m e hm ∧
      (m : ℚ) * 2 ^ e = n := by
  have hword : n.toUInt64.toNat = n := Nat.mod_eq_of_lt (hsmall.trans (by norm_num))
  obtain ⟨s, hround, hsign⟩ := rounded_normalize n 0
  obtain rfl := hsign (Int.natCast_nonneg n)
  have hsize : ((|(n : ℤ)| : ℤ) : ℚ) * 2 ^ (0 : ℤ) = n := by
    rw [zpow_zero, mul_one, Nat.abs_cast, Int.cast_natCast]
  rw [hsize] at hround
  refine hround.exact (representable_natCast hsmall) (by exact_mod_cast hn) (natCast_lt hsmall) ?_
  conv_rhs => rw [← hword]
  rfl

theorem parts_ofNat (hn : 0 < n) (hsmall : n < 2 ^ 53) :
    ∃ m e, ∃ hm : 0 < m, parts (Float.ofNat n) = .finite .positive m e hm ∧
      (m : ℚ) * 2 ^ e = n := by
  -- A literal is its digits times a power of ten, here the zeroth.
  have hdefinition : Float.ofNat n = n.toUInt64.toFloat * Float.ofBits 0x3ff0000000000000 :=
    dif_pos ⟨hsmall, by norm_num⟩
  have hone : parts (Float.ofBits 0x3ff0000000000000) =
      .finite .positive (2 ^ 52) (-52) (by positivity) := rfl
  obtain ⟨m, e, hm, hparts, hme⟩ := parts_toFloat hn hsmall
  have hproduct := rounded_mul (hparts ▸ canonical_parts _) (hone ▸ canonical_parts _)
  have hsize : (m : ℚ) * 2 ^ e * ((2 ^ 52 : ℕ) * 2 ^ (-52 : ℤ)) = n := by
    rw [hme]
    norm_num
  rw [hsize] at hproduct
  refine hproduct.toRounded.exact (representable_natCast hsmall) (by exact_mod_cast hn)
    (natCast_lt hsmall) ?_
  rw [← hparts, ← hone, hdefinition]
  rfl

end Counts

section Quotients

variable {c : ℚ} {x : Float} {n : ℕ}

theorem div_ofNat (hx : 0.0 ≤ x) (hn : 0 < n) (hsmall : n < 2 ^ 53) :
    0.0 ≤ x / Float.ofNat n ∧ (x / Float.ofNat n).isFinite = x.isFinite ∧
      ∀ c, Representable c → size x / n ≤ c → c < 2 ^ 1024 → size (x / Float.ofNat n) ≤ c := by
  obtain ⟨m, e, hm, hparts, hvalue⟩ := parts_ofNat hn hsmall
  obtain ⟨hresult, hfinite⟩ := result_div (nonneg_iff.mp hx) hm e
  have hquotient : parts (x / Float.ofNat n) = (Float.Model.pack (UnpackedFloat.div
      Format.binary64 (parts x) (.finite .positive m e hm))).unpack := by
    rw [← hparts]
    rfl
  have hone : (1 : ℚ) ≤ n := by exact_mod_cast hn
  rw [hvalue] at hresult
  have hself := hresult.bounded hquotient (representable_size x)
    (div_le_self (size_nonneg x) hone) (size_lt x)
  refine ⟨hresult.nonneg hquotient, ?_, fun c hc hv hmax => (hresult.bounded hquotient hc hv hmax).2⟩
  rw [hself.1, ← isFinite_parts x]
  exact Bool.eq_iff_iff.mpr hfinite

theorem sqrt_nonneg (hx : 0.0 ≤ x) : 0.0 ≤ x.sqrt ∧ x.sqrt.isFinite = x.isFinite := by
  obtain ⟨hresult, hfinite⟩ := result_sqrt (nonneg_iff.mp hx) (canonical_parts x) (size_lt x)
  obtain ⟨hsame, -⟩ := hresult.bounded (x := x.sqrt) rfl (representable_two_pow 513) le_rfl
    (pow_lt_pow_right₀ one_lt_two (by norm_num))
  refine ⟨hresult.nonneg rfl, hsame.trans ?_⟩
  rw [← isFinite_parts x]
  exact Bool.eq_iff_iff.mpr hfinite

end Quotients

section Squares

variable {x y : Float}

theorem parts_sub (hx : 0.0 ≤ x) (fx : x.isFinite = true) (hy : 0.0 ≤ y) :
    parts (x - y) ≠ .notANumber ∧ (x - y).isFinite = y.isFinite ∧
      ∀ b, Representable b → size x ≤ b → size y ≤ b → size (x - y) ≤ b := by
  obtain ⟨hnumber, hcanonical, hfinite, hbound⟩ := sub_bounded (nonneg_iff.mp hx) fx
    (nonneg_iff.mp hy) (canonical_parts x) (canonical_parts y)
  have hmax : magnitude (UnpackedFloat.sub Format.binary64 (parts x) (parts y)) < 2 ^ 1024 := by
    obtain hle | hle := le_total (size x) (size y)
    · exact (hbound _ (representable_size y) hle le_rfl).trans_lt (size_lt y)
    · exact (hbound _ (representable_size x) le_rfl hle).trans_lt (size_lt x)
  have hparts : parts (x - y) = UnpackedFloat.sub Format.binary64 (parts x) (parts y) := by
    rw [← packed_eq_self hcanonical hmax, ← unpack_pack hcanonical]
    rfl
  refine ⟨hparts ▸ hnumber, ?_, fun b hb hxb hyb => ?_⟩
  · rw [← isFinite_parts, ← isFinite_parts, hparts]
    exact Bool.eq_iff_iff.mpr hfinite
  · rw [size, hparts]
    exact hbound b hb hxb hyb

theorem square_sub (hx : 0.0 ≤ x) (fx : x.isFinite = true) (hy : 0.0 ≤ y) :
    0.0 ≤ (x - y) * (x - y) ∧
      ∀ b, Representable b → Representable (b * b) → b * b < 2 ^ 1024 → y.isFinite = true →
        size x ≤ b → size y ≤ b →
          ((x - y) * (x - y)).isFinite = true ∧ size ((x - y) * (x - y)) ≤ b * b := by
  obtain ⟨hnumber, hsame, hbound⟩ := parts_sub hx fx hy
  obtain ⟨hresult, hfinite⟩ := result_square hnumber (canonical_parts (x - y))
  refine ⟨hresult.nonneg rfl, fun b hb hbb hmax fy hxb hyb => ?_⟩
  have hsize := hbound b hb hxb hyb
  obtain ⟨hpacked, hle⟩ := hresult.bounded (x := (x - y) * (x - y)) rfl hbb
    (mul_self_le_mul_self (size_nonneg (x - y)) hsize) hmax
  exact ⟨hpacked.trans (hfinite.mpr (hsame.trans fy)), hle⟩

end Squares

end CalibratedSweep.Double
