import CalibratedSweep.Decimal.Layout
import CalibratedSweep.Proofs.Decimal.Binary
import CalibratedSweep.Proofs.Text.Numeral

namespace CalibratedSweep

namespace Numeral

theorem padded_two (n : ℕ) : padded 2 n = digits (n / 10) ++ digits (n % 10) := by
  by_cases h : n < 10
  · rw [Nat.div_eq_of_lt h, Nat.mod_eq_of_lt h, padded, digits_of_lt h]
    rfl
  · have hlast : n % 10 < 10 := Nat.mod_lt n (by decide)
    have hfirst : 0 < n / 10 := Nat.div_pos (by omega) (by decide)
    have hlength : 0 < (digits (n / 10)).length := Nat.length_toDigits_pos
    have hsplit := digits_append hfirst hlast
    rw [Nat.div_add_mod] at hsplit
    rw [hsplit, padded, List.leftpad, ← hsplit, List.length_append, digits_of_lt hlast,
      List.length_singleton, Nat.sub_eq_zero_of_le (by omega)]
    rfl

theorem length_padded_two {n : ℕ} (h : n < 100) : (padded 2 n).length = 2 := by
  rw [padded_two, List.length_append, digits_of_lt (Nat.div_lt_of_lt_mul h),
    digits_of_lt (Nat.mod_lt n (by decide))]
  rfl

end Numeral

namespace Decimal

open Double
open Float.Model (Format UnpackedFloat)
open Float.Model.UnpackedFloat

theorem signBit_of_pos {x : Float} {v : ℚ} (h : HasValue x v) (hv : 0 < v) : signBit x = false := by
  obtain ⟨-, rfl⟩ | ⟨m, e, hm, hparts, -⟩ := h.cases
  · exact absurd hv (lt_irrefl 0)
  have hbits : parts x = unpack Format.binary64 x.toModel.toBits.toBitVec := rfl
  rw [hparts] at hbits
  rw [signBit_eq_false_iff]
  by_contra hsign
  have hnegative : Sign.ofBitVec (@unpackSign Format.binary64 x.toModel.toBits.toBitVec) = .negative :=
    if_neg hsign
  unfold unpack at hbits
  dsimp only at hbits
  rw [hnegative] at hbits
  split at hbits
  · split at hbits <;> cases hbits
  · split at hbits
    · split at hbits <;> cases hbits
    · cases hbits

theorem fixed_one {x : Float} {v : ℚ} (h : HasValue x v) (hv : 0 < v) :
    fixed 1 x = Numeral.digits (roundEven (v * 10) / 10) ++
      '.' :: Numeral.digits (roundEven (v * 10) % 10) := by
  obtain ⟨b, hb, rfl⟩ := exists_magnitude? h
  have hround : roundDiv .toEven (b.scaled (Nat.pow 10 1)).1 (b.scaled (Nat.pow 10 1)).2 =
      roundEven (b.value * 10) := by
    rw [roundDiv_toEven (b.scaled_pos _), b.scaled_eq]
    rfl
  have hpadded : Numeral.padded (1 + 1) (roundEven (b.value * 10)) =
      Numeral.digits (roundEven (b.value * 10) / 10) ++
        Numeral.digits (roundEven (b.value * 10) % 10) := Numeral.padded_two _
  have hlast : (Numeral.digits (roundEven (b.value * 10) % 10)).length = 1 := by
    rw [Numeral.digits_of_lt (Nat.mod_lt _ (by decide))]
    rfl
  rw [fixed, hb]
  dsimp only
  rw [hround, hpadded, signBit_of_pos h hv, List.length_append, hlast, Nat.add_sub_cancel,
    List.take_left, List.drop_left]
  rfl

end Decimal

end CalibratedSweep
