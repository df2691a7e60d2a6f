import CalibratedSweep.Decimal.Reader
import CalibratedSweep.Proofs.Decimal.Binary
import CalibratedSweep.Proofs.Text.Numeral

namespace CalibratedSweep.Decimal

open Double
open Float.Model (Format UnpackedFloat)
open Float.Model.UnpackedFloat

section Scientific

variable {m k : ℕ}

theorem powersOfTen_exact : ∀ k : Fin Float.exactlyRepresentablePowersOfTen.size,
    0.0 ≤ Float.exactlyRepresentablePowersOfTen[k] ∧
      Float.exactlyRepresentablePowersOfTen[k].isFinite = true ∧
      ∃ b ∈ magnitude? Float.exactlyRepresentablePowersOfTen[k],
        (b.scaled 1).1 = 10 ^ k.val * (b.scaled 1).2 := by
  decide +kernel

theorem hasValue_powerOfTen (h : k < Float.exactlyRepresentablePowersOfTen.size) :
    HasValue Float.exactlyRepresentablePowersOfTen[k] (10 ^ k) := by
  obtain ⟨hnonneg, hfinite, b, hb, hpower⟩ := powersOfTen_exact ⟨k, h⟩
  have hden : ((b.scaled 1).2 : ℚ) ≠ 0 := by exact_mod_cast (b.scaled_pos 1).ne'
  have hvalue : b.value = 10 ^ k := by
    rw [← mul_one b.value, ← Nat.cast_one, ← b.scaled_eq, hpower]
    push_cast
    exact mul_div_cancel_right₀ _ hden
  exact hvalue ▸ hasValue_of_magnitude? hnonneg hfinite hb

theorem hasValue_count (hm : m < 2 ^ 53) : HasValue m.toUInt64.toFloat m := by
  have hword : m.toUInt64.toNat = m := Nat.mod_eq_of_lt (hm.trans (by norm_num))
  have hvalue := hasValue_toFloat m.toUInt64
  rwa [hword, nearest_of_representable (representable_natCast hm)] at hvalue

/-- A whole number is shifted first, so that no bit of it is lost. -/
theorem rounded_scientific_zero (hm : 0 < m) :
    RoundedToNearest .positive m (UnpackedFloat.ofScientific Format.binary64 m (Int.negOfNat 0)) := by
  have hzero : Int.negOfNat 0 = 0 := rfl
  have hbits : Format.binary64.mantissaBits = 53 := rfl
  have hsign : Sign.positive * Sign.positive = .positive := rfl
  have hfine : Fine (m <<< Format.binary64.mantissaBits * 10 ^ (0 : ℤ).toNat)
      (-Format.binary64.mantissaBits + 0) := by
    rw [Fine, Int.toNat_zero, pow_zero, mul_one, log2_shiftLeft hm, hbits]
    omega
  have hvalue : ((m <<< Format.binary64.mantissaBits : ℕ) : ℚ) *
      2 ^ (-Format.binary64.mantissaBits : ℤ) * ((10 ^ (0 : ℤ).toNat : ℕ) * 2 ^ (0 : ℤ)) = m := by
    have hshift := value_shiftLeft m Format.binary64.mantissaBits 0
    rw [zpow_zero, mul_one, zero_sub] at hshift
    rw [hshift, Int.toNat_zero, pow_zero, Nat.cast_one, zpow_zero, mul_one, mul_one]
  have hround := rounded_mul_of_fine .positive .positive (Nat.shiftLeft_pos_iff.mpr hm)
    (by positivity) hfine
  rw [hvalue, hsign] at hround
  unfold UnpackedFloat.ofScientific
  rw [dif_neg hm.ne', hzero, if_neg (by decide), if_neg, if_pos le_rfl]
  · exact hround
  · norm_num [Format.exponentBits]

theorem rounded_scientific_succ (hm : 0 < m) (hk : k + 1 ≤ 2048 + m.log2) :
    RoundedToNearest .positive (m / 10 ^ (k + 1))
      (UnpackedFloat.ofScientific Format.binary64 m (Int.negOfNat (k + 1))) := by
  have hneg : Int.negOfNat (k + 1) = -((k + 1 : ℕ) : ℤ) := rfl
  have hplaces : (- -((k + 1 : ℕ) : ℤ)).toNat = k + 1 := by omega
  have hround := rounded_div .positive hm (n := 10 ^ (k + 1)) (by positivity) 0 0
  have hvalue : (m : ℚ) * 2 ^ (0 : ℤ) / ((10 ^ (k + 1) : ℕ) * 2 ^ (0 : ℤ)) = m / 10 ^ (k + 1) := by
    push_cast
    rw [mul_one, mul_one]
  rw [hvalue] at hround
  unfold UnpackedFloat.ofScientific
  rw [dif_neg hm.ne', hneg, if_neg, if_neg, if_neg]
  · simp only [hplaces]
    exact hround
  · omega
  · norm_num [Format.exponentBits]
    omega
  · norm_num [Format.exponentBits]
    omega

/-- Short fractions are quotients of two doubles, longer ones are rounded as quotients of numbers. -/
theorem holds_ofScientific (hk : k ≤ 2048 + m.log2) :
    Holds (Float.ofScientific m true k) (nearest (m / 10 ^ k)) := by
  unfold Float.ofScientific
  split
  · rename_i hshort
    exact holds_div (hasValue_count hshort.1) (hasValue_powerOfTen _) (by positivity)
  · obtain rfl | hm := m.eq_zero_or_pos
    · rw [Nat.cast_zero, zero_div]
      exact holds_zero (s := .positive) rfl
    · cases k with
      | zero =>
        rw [pow_zero, div_one]
        exact (rounded_scientific_zero hm).holds rfl
      | succ k => exact (rounded_scientific_succ hm hk).holds rfl

theorem hasValue_pointZero (hm : m < 2 ^ 53) : HasValue (Float.ofScientific (10 * m) true 1) m := by
  have hholds : Holds (Float.ofScientific (10 * m) true 1) (nearest ((10 * m : ℕ) / 10 ^ 1)) :=
    holds_ofScientific (by omega)
  have hvalue : ((10 * m : ℕ) : ℚ) / 10 ^ 1 = m := by
    push_cast
    rw [pow_one, mul_div_cancel_left₀ _ (by norm_num)]
  rw [hvalue, nearest_of_representable (representable_natCast hm)] at hholds
  exact hholds.hasValue (natCast_lt hm)

theorem holds_ofScientific_whole (m : ℕ) : Holds (Float.ofScientific m false 0) (nearest m) := by
  unfold Float.ofScientific
  split
  · rename_i hshort
    have hproduct := holds_mul (hasValue_count hshort.1)
      (hasValue_powerOfTen (k := 0) (Nat.zero_lt_succ _))
    rw [pow_zero, mul_one] at hproduct
    exact hproduct
  · obtain rfl | hm := m.eq_zero_or_pos
    · exact holds_zero (s := .positive) rfl
    · exact (rounded_scientific_zero hm).holds rfl

theorem le_add_log2 (h : 10 ^ k ≤ m * 10 ^ 400) : k ≤ 400 + m.log2 := by
  obtain hk | hk := le_total k 400
  · omega
  obtain ⟨j, rfl⟩ := Nat.exists_eq_add_of_le hk
  rw [pow_add, mul_comm m, Nat.mul_le_mul_left_iff (by positivity)] at h
  have hm : m ≠ 0 := fun hm => (Nat.pow_pos (by norm_num)).not_ge (hm ▸ h)
  have hlog : j ≤ m.log2 := (Nat.le_log2 hm).mpr ((Nat.pow_le_pow_left (by norm_num) j).trans h)
  omega

theorem Parsed.holds_toFloat (hlo : m = 0 ∨ 10 ^ k ≤ m * 10 ^ 400) (hhi : m < 10 ^ (400 + k)) :
    Holds (Parsed.toFloat ⟨m, -(k : ℤ)⟩) (nearest (m / 10 ^ k)) := by
  unfold Parsed.toFloat
  dsimp only
  by_cases hm : m = 0
  · rw [if_pos (.inl hm), hm, Nat.cast_zero, zero_div]
    exact holds_zero (s := .positive) rfl
  have hlow := hlo.resolve_left hm
  have hsmall : (Numeral.digits m).length ≤ 400 + k :=
    (Nat.length_toDigits_le_iff (by decide) (by omega)).mpr hhi
  have hlarge : k < 400 + (Numeral.digits m).length + 1 := by
    have hdigits : m < 10 ^ (Numeral.digits m).length :=
      (Nat.length_toDigits_le_iff (by decide) Nat.length_toDigits_pos).mp le_rfl
    have hpower : 10 ^ k < 10 ^ (400 + (Numeral.digits m).length) := by
      rw [pow_add, mul_comm (10 ^ 400)]
      exact hlow.trans_lt (Nat.mul_lt_mul_of_pos_right hdigits (by positivity))
    exact ((Nat.pow_lt_pow_iff_right (by norm_num)).mp hpower).trans (Nat.lt_succ_self _)
  rw [if_neg (by omega), if_neg (by omega)]
  cases k with
  | zero =>
    rw [pow_zero, div_one]
    exact holds_ofScientific_whole m
  | succ k =>
    refine holds_ofScientific ?_
    have hlog := le_add_log2 hlow
    omega

end Scientific

structure Written where
  whole : List Char
  fraction : Option (List Char)
  whole_digits : ∀ c ∈ whole, c.isDigit
  fraction_digits : ∀ c ∈ fraction.getD [], c.isDigit
  some_digit : whole ++ fraction.getD [] ≠ []

namespace Written

variable (w : Written)

def places : ℕ := (w.fraction.getD []).length

def chars : List Char :=
  w.whole ++ match w.fraction with
    | none => []
    | some ds => '.' :: ds

def value : ℚ :=
  Nat.ofDigitChars 10 w.whole 0 + Nat.ofDigitChars 10 (w.fraction.getD []) 0 / 10 ^ w.places

def coefficient : ℕ := Nat.ofDigitChars 10 (w.whole ++ w.fraction.getD []) 0

theorem ofDigitChars_eq (ds : List Char) (n : ℕ) :
    Nat.ofDigitChars 10 ds n = n * 10 ^ ds.length + Nat.ofDigitChars 10 ds 0 := by
  induction ds generalizing n with
  | nil => simp
  | cons d ds ih =>
    rw [Nat.ofDigitChars_cons, Nat.ofDigitChars_cons, ih, ih (10 * 0 + _), List.length_cons]
    ring

theorem value_eq : w.value = w.coefficient / 10 ^ w.places := by
  rw [coefficient, Nat.ofDigitChars_append, ofDigitChars_eq, value, places]
  push_cast
  field_simp

theorem value_of_whole (h : w.fraction = none) : ∃ n : ℕ, w.value = n := by
  refine ⟨Nat.ofDigitChars 10 w.whole 0, ?_⟩
  rw [value, h, Option.getD_none, Nat.ofDigitChars_nil, Nat.cast_zero, zero_div, add_zero]

theorem value_nonneg : 0 ≤ w.value := by
  rw [value_eq]
  positivity

theorem unsigned?_chars : unsigned? w.chars = some ⟨w.coefficient, -(w.places : ℤ)⟩ := by
  have hdigits : ∀ c ∈ w.whole ++ w.fraction.getD [], c.isDigit := by
    intro c hc
    exact (List.mem_append.mp hc).elim (w.whole_digits c) (w.fraction_digits c)
  have hvalue : Numeral.value? (w.whole ++ w.fraction.getD []) = some w.coefficient := by
    rw [coefficient, ← Numeral.valueFrom?_of_isDigit hdigits]
    cases h : w.whole ++ w.fraction.getD [] with
    | nil => exact absurd h w.some_digit
    | cons c s => rfl
  have hwhole : ∀ c ∈ w.whole, isDigit c = true := w.whole_digits
  have hpoint : ¬isDigit '.' = true := nofun
  unfold unsigned? chars places
  cases hf : w.fraction with
  | none =>
    rw [hf] at hvalue
    change Numeral.value? (w.whole ++ []) = _ at hvalue
    simp only [List.append_nil] at hvalue ⊢
    rw [List.takeWhile_eq_self_iff.mpr hwhole, List.dropWhile_eq_nil_iff.mpr hwhole]
    simp [hvalue, exponent?]
  | some ds =>
    have hfraction : ∀ c ∈ ds, isDigit c = true := by
      have hds := w.fraction_digits
      rwa [hf] at hds
    rw [hf] at hvalue
    change Numeral.value? (w.whole ++ ds) = _ at hvalue
    simp only [List.takeWhile_append_of_pos hwhole, List.dropWhile_append_of_pos hwhole,
      List.takeWhile_cons_of_neg hpoint, List.dropWhile_cons_of_neg hpoint, List.append_nil,
      List.takeWhile_eq_self_iff.mpr hfraction, List.dropWhile_eq_nil_iff.mpr hfraction]
    simp [hvalue, exponent?]

theorem mem_chars {c : Char} (h : c ∈ w.chars) : c.isDigit ∨ c = '.' := by
  rw [chars, List.mem_append] at h
  obtain h | h := h
  · exact .inl (w.whole_digits c h)
  · cases hf : w.fraction with
    | none =>
      rw [hf] at h
      cases h
    | some ds =>
      have hds := w.fraction_digits
      rw [hf] at h hds
      obtain rfl | h := List.mem_cons.mp h
      · exact .inr rfl
      · exact .inl (hds c h)

theorem chars_ne_nil : w.chars ≠ [] := by
  have hsome := w.some_digit
  rw [chars]
  cases hf : w.fraction with
  | none =>
    rw [hf] at hsome
    exact hsome
  | some ds => exact List.append_ne_nil_of_right_ne_nil _ (List.cons_ne_nil _ _)

theorem read?_chars : read? w.chars = some (Parsed.toFloat ⟨w.coefficient, -(w.places : ℤ)⟩) := by
  obtain ⟨c, s, hchars⟩ := List.exists_cons_of_ne_nil w.chars_ne_nil
  have hc : c.isDigit ∨ c = '.' := w.mem_chars (hchars ▸ List.mem_cons_self)
  have hunsigned := w.unsigned?_chars
  rw [hchars] at hunsigned ⊢
  unfold read?
  split
  · rename_i rest heq
    obtain ⟨rfl, rfl⟩ := List.cons.inj heq
    obtain hc | hc := hc <;> cases hc
  · rename_i rest heq
    obtain ⟨rfl, rfl⟩ := List.cons.inj heq
    obtain hc | hc := hc <;> cases hc
  · rw [magnitudeText?, hunsigned]

theorem read?_holds (hlo : w.value = 0 ∨ 1 ≤ w.value * 10 ^ 400) (hhi : w.value < 10 ^ 400) :
    ∃ x, read? w.chars = some x ∧ Holds x (nearest w.value) := by
  have hpower : (0 : ℚ) < 10 ^ w.places := by positivity
  rw [value_eq] at *
  refine ⟨_, w.read?_chars, Parsed.holds_toFloat (hlo.imp (fun h => ?_) fun h => ?_) ?_⟩
  · rw [div_eq_zero_iff, or_iff_left hpower.ne'] at h
    exact_mod_cast h
  · rw [div_mul_eq_mul_div, le_div_iff₀ hpower, one_mul] at h
    exact_mod_cast h
  · rw [div_lt_iff₀ hpower, ← pow_add] at hhi
    exact_mod_cast hhi

end Written

end CalibratedSweep.Decimal
