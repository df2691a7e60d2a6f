import CalibratedSweep.Proofs.Decimal.Infinite
import CalibratedSweep.Proofs.Double.Values

namespace CalibratedSweep.Decimal

open Double
open Float.Model (Format UnpackedFloat)
open Float.Model.UnpackedFloat

namespace Binary

def value (b : Binary) : ℚ := b.mantissa * 2 ^ b.exponent

theorem scaled_pos (b : Binary) (scale : ℕ) : 0 < (b.scaled scale).2 := by
  unfold scaled
  split
  · exact one_pos
  · exact Nat.pow_pos two_pos

theorem scaled_eq (b : Binary) (scale : ℕ) :
    ((b.scaled scale).1 : ℚ) / (b.scaled scale).2 = b.value * scale := by
  unfold scaled value
  split <;> rename_i e he <;> rw [he]
  · rw [Nat.pow_eq, Int.ofNat_eq_natCast, zpow_natCast]
    push_cast
    rw [div_one]
  · rw [Nat.pow_eq, zpow_negSucc]
    push_cast
    rw [div_eq_mul_inv]
    ring

end Binary

theorem exists_magnitude? {x : Float} {v : ℚ} (h : HasValue x v) :
    ∃ b, magnitude? x = some b ∧ b.value = v := by
  have hfinite : exponentBits x ≠ 2047 := by
    rw [Ne, ← isFinite_eq_false_iff, h.isFinite]
    exact nofun
  have hbits : parts x = unpack Format.binary64 (packComponents Format.binary64
      (Sign.ofBitVec (@unpackSign Format.binary64 x.toModel.toBits.toBitVec))
      (@unpackExponent Format.binary64 x.toModel.toBits.toBitVec)
      (@unpackMantissa Format.binary64 x.toModel.toBits.toBitVec)) := by
    rw [packComponents_unpackSign_unpackExponent_unpackMantissa]
    rfl
  have hexponent := toNat_unpackExponent x
  have hmantissa := toNat_unpackMantissa x
  generalize Sign.ofBitVec (@unpackSign Format.binary64 x.toModel.toBits.toBitVec) = s at *
  generalize @unpackExponent Format.binary64 x.toModel.toBits.toBitVec = e at *
  generalize @unpackMantissa Format.binary64 x.toModel.toBits.toBitVec = m at *
  have hzero : e = 0#11 ↔ exponentBits x = 0 := by
    rw [← hexponent]
    exact BitVec.toNat_inj.symm
  rw [unpack_packComponents, if_neg (by rwa [eq_neg_one_iff, hexponent])] at hbits
  rw [magnitude?, if_neg hfinite, ← h.size, size, hbits]
  by_cases he : exponentBits x = 0
  · rw [if_pos he, if_pos (hzero.mpr he)]
    refine ⟨_, rfl, ?_⟩
    split <;> rename_i hm
    · have hnone : fractionBits x = 0 := by rw [← hmantissa, hm]; rfl
      rw [Binary.value, hnone, Nat.cast_zero, zero_mul]
      rfl
    · rw [Binary.value, magnitude, hmantissa]
  · rw [if_neg he, if_neg (hzero.not.mpr he)]
    refine ⟨_, rfl, ?_⟩
    rw [Binary.value, magnitude, toNat_implicit, hmantissa, hexponent, Nat.add_comm]
    rfl

theorem hasValue_of_magnitude? {x : Float} {b : Binary} (hx : 0.0 ≤ x) (hf : x.isFinite = true)
    (h : magnitude? x = some b) : HasValue x b.value := by
  obtain ⟨b', hb', hvalue⟩ := exists_magnitude? (hasValue_size hx hf)
  obtain rfl := Option.some.inj (hb'.symm.trans h)
  rw [hvalue]
  exact hasValue_size hx hf

theorem roundDiv_toEven {num den : ℕ} (hden : 0 < den) :
    roundDiv .toEven num den = roundEven (num / den) := by
  have hden' : (0 : ℚ) < den := by exact_mod_cast hden
  have hsplit : (num : ℚ) / den = (num / den : ℕ) + (num % den : ℕ) / den := by
    have hnum : (num : ℚ) = den * (num / den : ℕ) + (num % den : ℕ) := by
      exact_mod_cast (Nat.div_add_mod num den).symm
    conv_lhs => rw [hnum]
    field_simp
  have hrest : (0 : ℚ) ≤ (num % den : ℕ) / den := by positivity
  have hrest' : ((num % den : ℕ) : ℚ) / den < 1 := by
    rw [div_lt_one hden']
    exact_mod_cast Nat.mod_lt num hden
  have hbelow : (num : ℚ) / den < (num / den : ℕ) + 1 / 2 ↔ 2 * (num % den) < den := by
    rw [hsplit, add_lt_add_iff_left, div_lt_div_iff₀ hden' two_pos, one_mul, mul_comm]
    exact_mod_cast Iff.rfl
  have habove : ((num / den : ℕ) : ℚ) + 1 / 2 < num / den ↔ den < 2 * (num % den) := by
    rw [hsplit, add_lt_add_iff_left, div_lt_div_iff₀ two_pos hden', one_mul, mul_comm _ (2 : ℚ)]
    exact_mod_cast Iff.rfl
  have hlo : ((num / den : ℕ) : ℚ) ≤ num / den := hsplit ▸ le_add_of_nonneg_right hrest
  have hhi : (num : ℚ) / den < (num / den : ℕ) + 1 := by
    rw [hsplit]
    exact (add_lt_add_iff_left _).mpr hrest'
  rw [roundEven_eq hlo hhi, roundDiv]
  simp only [hbelow, habove]

end CalibratedSweep.Decimal
