import CalibratedSweep.Proofs.Decimal.ScoreText
import CalibratedSweep.Proofs.Double.Numbers

namespace CalibratedSweep.Decimal

open Double
open Float.Model (Format UnpackedFloat)
open Float.Model.UnpackedFloat

theorem toNat_unpackMantissa (x : Float) :
    (@unpackMantissa Format.binary64 x.toModel.toBits.toBitVec).toNat = fractionBits x := by
  change (x.toModel.toBits.toNat >>> 0) % 2 ^ 52 = x.toModel.toBits.toNat % 2 ^ 52
  rfl

theorem toNat_unpackExponent (x : Float) :
    (@unpackExponent Format.binary64 x.toModel.toBits.toBitVec).toNat = exponentBits x := by
  change (x.toModel.toBits.toNat >>> 52) % 2 ^ 11 = x.toModel.toBits.toNat / 2 ^ 52 % 2 ^ 11
  rw [Nat.shiftRight_eq_div_pow]

theorem toNat_unpackSign (x : Float) :
    (@unpackSign Format.binary64 x.toModel.toBits.toBitVec).toNat = x.toBits.toNat / 2 ^ 63 := by
  have hword : x.toBits.toNat < 2 ^ 64 := x.toBits.toBitVec.isLt
  change (x.toModel.toBits.toNat >>> 63) % 2 ^ 1 = x.toModel.toBits.toNat / 2 ^ 63
  rw [Nat.shiftRight_eq_div_pow]
  exact Nat.mod_eq_of_lt (Nat.div_lt_of_lt_mul hword)

theorem signBit_eq_false_iff (x : Float) :
    signBit x = false ↔ @unpackSign Format.binary64 x.toModel.toBits.toBitVec = 0#1 := by
  have hword : x.toBits.toNat < 2 ^ 64 := x.toBits.toBitVec.isLt
  rw [← BitVec.toNat_inj, toNat_unpackSign, signBit, beq_eq_false_iff_ne, Ne, ← UInt64.toNat_inj,
    UInt64.toNat_shiftRight]
  change ¬x.toBits.toNat >>> 63 = 1 ↔ x.toBits.toNat / 2 ^ 63 = 0
  rw [Nat.shiftRight_eq_div_pow]
  omega

theorem eq_neg_one_iff (e : BitVec 11) : e = -1#11 ↔ e.toNat = 2047 := BitVec.toNat_inj.symm

theorem isFinite_eq_false_iff (x : Float) : x.isFinite = false ↔ exponentBits x = 2047 := by
  have hexponent := eq_neg_one_iff (@unpackExponent Format.binary64 x.toModel.toBits.toBitVec)
  rw [toNat_unpackExponent] at hexponent
  rw [← hexponent, ← isFinite_parts]
  change (unpack Format.binary64 x.toModel.toBits.toBitVec).isFinite = false ↔ _
  unfold unpack
  dsimp only
  split
  · rename_i htop
    split <;> exact iff_of_true rfl htop
  · rename_i htop
    refine iff_of_false ?_ htop
    split
    · split <;> exact nofun
    · exact nofun

/-- An infinity has no fraction, and unless it is negative no sign. -/
theorem bits_of_infinity {x : Float} (hx : 0.0 ≤ x) (h : x.isFinite = false) :
    signBit x = false ∧ fractionBits x = 0 := by
  have htop : @unpackExponent Format.binary64 x.toModel.toBits.toBitVec = -1#11 := by
    rw [eq_neg_one_iff, toNat_unpackExponent]
    exact (isFinite_eq_false_iff x).mp h
  have hparts : parts x = unpack Format.binary64 x.toModel.toBits.toBitVec := rfl
  unfold unpack at hparts
  dsimp only at hparts
  rw [if_pos htop] at hparts
  rw [nonneg_iff, hparts] at hx
  rw [signBit_eq_false_iff, ← toNat_unpackMantissa]
  split at hx
  · rename_i hzero
    rw [hzero]
    refine ⟨?_, rfl⟩
    by_contra hsign
    rw [NonNegative, Sign.ofBitVec, if_neg hsign] at hx
    cases hx
  · cases hx

theorem magnitude?_eq_none_iff (x : Float) : magnitude? x = none ↔ x.isFinite = false := by
  rw [isFinite_eq_false_iff, magnitude?]
  split
  · rename_i htop
    exact iff_of_true rfl htop
  · rename_i htop
    refine iff_of_false ?_ htop
    split <;> exact nofun

theorem scoreText_infinity {x : Float} (hx : 0.0 ≤ x) (h : x.isFinite = false) :
    scoreText x = "inf" := by
  obtain ⟨hsign, hfraction⟩ := bits_of_infinity hx h
  have hnone := (magnitude?_eq_none_iff x).mpr h
  simp only [scoreText, Layout.text, hnone, hsign, hfraction]
  rfl

theorem not_mem_scoreText {x : Float} (h : x.isFinite = true) {c : Char} (hc : c.isDigit = false)
    (hpoint : c ≠ '.') (hsign : c ≠ '-') : c ∉ (scoreText x).toList := by
  rw [scoreText, String.toList_ofList, Layout.text]
  cases hb : magnitude? x with
  | none =>
    rw [(magnitude?_eq_none_iff x).mp hb] at h
    cases h
  | some b =>
    rw [List.mem_append]
    rintro (hminus | hdigit)
    · split at hminus
      · exact hsign (List.mem_singleton.mp hminus)
      · cases hminus
    · obtain hd | hp := isDigit_or_point_of_mem_plain hdigit
      · rw [hc] at hd
        cases hd
      · exact hpoint hp

theorem scoreText_eq_inf_iff {x : Float} (hx : 0.0 ≤ x) :
    scoreText x ≠ "NaN" ∧ (scoreText x = "inf" ↔ x.isFinite = false) := by
  cases hf : x.isFinite with
  | false =>
    rw [scoreText_infinity hx hf]
    exact ⟨by decide, iff_of_true rfl rfl⟩
  | true =>
    have hfirst : ('N' : Char) ∉ (scoreText x).toList :=
      not_mem_scoreText hf rfl (by decide) (by decide)
    have hfirst' : ('i' : Char) ∉ (scoreText x).toList :=
      not_mem_scoreText hf rfl (by decide) (by decide)
    refine ⟨fun h => ?_, iff_of_false (fun h => ?_) nofun⟩
    · rw [h] at hfirst
      exact hfirst (by decide)
    · rw [h] at hfirst'
      exact hfirst' (by decide)

end CalibratedSweep.Decimal
