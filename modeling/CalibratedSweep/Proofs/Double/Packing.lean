import Mathlib
/-!
Doubles taken apart: what `unpack` can give, and what is left of an unpacked number after it was
packed into 64 bits. A number whose exponent is too large becomes an infinity.
-/

namespace CalibratedSweep.Double

open Float.Model (Format UnpackedFloat)
open Float.Model.UnpackedFloat

/-- The form that a double has exactly once, apart from the range of its exponent. -/
def Canonical : UnpackedFloat → Prop
  | .finite _ m e _ => m < 2 ^ 53 ∧ -1074 ≤ e ∧ (2 ^ 52 ≤ m ∨ e = -1074)
  | _ => True

def packed : UnpackedFloat → UnpackedFloat
  | .finite s m e hm => if e ≤ 971 then .finite s m e hm else .infinity s
  | u => u

theorem toNat_implicit (f : BitVec 52) : (1#1 ++ f).toNat = 2 ^ 52 + f.toNat := by
  rw [BitVec.toNat_append, ← Nat.shiftLeft_add_eq_or_of_lt f.isLt]
  rfl

theorem unpack_packComponents (s : Sign) (e : BitVec 11) (m : BitVec 52) :
    unpack Format.binary64 (packComponents Format.binary64 s e m) =
      if e = -1#11 then if m = 0#52 then .infinity s else .notANumber
      else if e = 0#11 then
        if h : m = 0#52 then .zero s
        else .finite s m.toNat (-1074) (by simpa [BitVec.toNat_pos, BitVec.pos_iff_ne_zero])
      else .finite s (1#1 ++ m).toNat ((e.toNat : Int) - 1075) (by rw [toNat_implicit]; omega) := by
  unfold unpack
  simp only [unpackMantissa_packComponents, unpackExponent_packComponents,
    unpackSign_packComponents, Sign.ofBitVec_toBitVec]
  split
  · rfl
  · split
    · rename_i he
      subst he
      rfl
    · rfl

theorem pack_finite (s : Sign) {m : Nat} {e : Int} (hm : 0 < m) (hlo : -1074 ≤ e) :
    pack Format.binary64 (.finite s m e hm) =
      if 972 ≤ e then packComponents Format.binary64 s (-1#11) 0#52
      else if m.log2 = 52 then
        packComponents Format.binary64 s (BitVec.ofNat 11 (e + 1075).toNat) (BitVec.ofNat 52 m)
      else packComponents Format.binary64 s 0#11 (BitVec.ofNat 52 m) := by
  have hbiased : e + ((2 : Nat) ^ (11 - 1) - 1 : Nat) + (52 : Nat) = e + 1075 := by norm_num; ring
  have hrange : 2 ^ 11 ≤ (e + 1075).toNat + 1 ↔ 972 ≤ e := by omega
  have hbits : m.log2 + 1 = 1 + 52 ↔ m.log2 = 52 := by omega
  simp only [pack, Format.exponentBias, Format.mantissaBits, hbiased, hrange, hbits]
  rfl

theorem toNat_biased {e : Int} (hlo : -1074 ≤ e) (hhi : e ≤ 971) :
    (BitVec.ofNat 11 (e + 1075).toNat).toNat = (e + 1075).toNat := by
  rw [BitVec.toNat_ofNat, Nat.mod_eq_of_lt (by omega)]

theorem unpack_normal (s : Sign) {m : Nat} {e : Int} (hm : 0 < m) (hbit : 2 ^ 52 ≤ m)
    (hsmall : m < 2 ^ 53) (hlo : -1074 ≤ e) (hhi : e ≤ 971) :
    unpack Format.binary64 (packComponents Format.binary64 s (BitVec.ofNat 11 (e + 1075).toNat)
      (BitVec.ofNat 52 m)) = .finite s m e hm := by
  have hexp := toNat_biased hlo hhi
  have hmant : (1#1 ++ BitVec.ofNat 52 m).toNat = m := by
    rw [toNat_implicit, BitVec.toNat_ofNat]
    omega
  have hrange : (e + 1075).toNat ≠ 2047 ∧ (e + 1075).toNat ≠ 0 := by omega
  rw [← hexp] at hrange
  rw [unpack_packComponents, if_neg fun h => hrange.1 (congrArg BitVec.toNat h),
    if_neg fun h => hrange.2 (congrArg BitVec.toNat h)]
  congr 1
  omega

theorem unpack_subnormal (s : Sign) {m : Nat} (hm : 0 < m) (hsmall : m < 2 ^ 52) :
    unpack Format.binary64 (packComponents Format.binary64 s 0#11 (BitVec.ofNat 52 m)) =
      .finite s m (-1074) hm := by
  have hmant : (BitVec.ofNat 52 m).toNat = m := by
    rw [BitVec.toNat_ofNat, Nat.mod_eq_of_lt hsmall]
  have hne : BitVec.ofNat 52 m ≠ 0#52 := by
    intro h
    have hm0 := congrArg BitVec.toNat h
    rw [hmant] at hm0
    exact hm.ne' hm0
  rw [unpack_packComponents, if_neg (by decide), if_pos rfl, dif_neg hne]
  congr 1

theorem unpack_pack_finite (s : Sign) {m : Nat} {e : Int} (hm : 0 < m)
    (hc : Canonical (.finite s m e hm)) :
    unpack Format.binary64 (pack Format.binary64 (.finite s m e hm)) =
      packed (.finite s m e hm) := by
  obtain ⟨hhi, hlo, hnormal⟩ := hc
  rw [pack_finite s hm hlo, packed]
  by_cases he : 972 ≤ e
  · rw [if_pos he, if_neg (by omega), unpack_packComponents, if_pos rfl, if_pos rfl]
  · have hle : e ≤ 971 := by omega
    rw [if_neg he, if_pos hle]
    by_cases hbit : 2 ^ 52 ≤ m
    · have hlog : m.log2 = 52 := (Nat.log2_eq_iff hm.ne').mpr ⟨hbit, hhi⟩
      rw [if_pos hlog, unpack_normal s hm hbit hhi hlo hle]
    · obtain rfl := hnormal.resolve_left hbit
      have hlog : m.log2 ≠ 52 := fun h => hbit ((Nat.log2_eq_iff hm.ne').mp h).1
      rw [if_neg hlog, unpack_subnormal s hm (by omega)]

theorem unpack_pack {u : UnpackedFloat} (h : Canonical u) :
    (Float.Model.pack u).unpack = packed u := by
  cases u with
  | notANumber => exact unpack_packedNaN
  | zero s => exact unpack_packedZero
  | infinity s =>
    exact (unpack_packComponents s (-1#11) 0#52).trans rfl
  | finite s m e hm => exact unpack_pack_finite s hm h

theorem canonical_unpack (x : Float.Model) :
    Canonical x.unpack ∧ packed x.unpack = x.unpack := by
  have hbits : x.unpack = unpack Format.binary64 (packComponents Format.binary64
      (Sign.ofBitVec (@unpackSign Format.binary64 x.toBits.toBitVec))
      (@unpackExponent Format.binary64 x.toBits.toBitVec)
      (@unpackMantissa Format.binary64 x.toBits.toBitVec)) := by
    rw [packComponents_unpackSign_unpackExponent_unpackMantissa]
    rfl
  generalize Sign.ofBitVec (@unpackSign Format.binary64 x.toBits.toBitVec) = s at hbits
  generalize @unpackExponent Format.binary64 x.toBits.toBitVec = e at hbits
  generalize @unpackMantissa Format.binary64 x.toBits.toBitVec = m at hbits
  rw [hbits, unpack_packComponents]
  have hm : m.toNat < 2 ^ 52 := m.isLt
  have he : e.toNat < 2 ^ 11 := e.isLt
  split
  · split <;> exact ⟨trivial, rfl⟩
  · rename_i hinf
    split
    · split
      · exact ⟨trivial, rfl⟩
      · exact ⟨⟨by omega, le_rfl, .inr rfl⟩, rfl⟩
    · rename_i hzero
      have hinf' : e.toNat ≠ 2047 := fun h => hinf (BitVec.eq_of_toNat_eq h)
      have hzero' : e.toNat ≠ 0 := fun h => hzero (BitVec.eq_of_toNat_eq h)
      rw [packed, if_pos (by omega)]
      refine ⟨⟨?_, by omega, .inl ?_⟩, rfl⟩ <;> rw [toNat_implicit] <;> omega

end CalibratedSweep.Double
