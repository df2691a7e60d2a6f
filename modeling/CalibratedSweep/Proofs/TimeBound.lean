import CalibratedSweep.TimeBound

namespace CalibratedSweep.TimeBound

namespace Table

def Sound (p : Policy) (t : Table) : Prop :=
  t.policy = p ∧ ∀ ops delay d, t.bounds.lookup (ops, delay) = some d → d = p.bound ops delay

theorem sound_empty (p : Policy) : (empty p).Sound p := ⟨rfl, fun _ _ _ h => by cases h⟩

theorem Sound.bound {p : Policy} {t : Table} (h : t.Sound p) (ops delay : UInt64) :
    (t.bound ops delay).1 = p.bound ops delay ∧ (t.bound ops delay).2.Sound p := by
  unfold Table.bound
  cases hl : t.bounds.lookup (ops, delay) with
  | some d => exact ⟨h.2 ops delay d hl, h⟩
  | none =>
    refine ⟨by rw [← h.1], h.1, fun ops' delay' d hd => ?_⟩
    rw [List.lookup_cons] at hd
    split at hd
    · rename_i he
      obtain ⟨rfl, rfl⟩ := Prod.mk.inj (eq_of_beq he)
      rw [← Option.some.inj hd, ← h.1]
    · exact h.2 ops' delay' d hd

end Table

end CalibratedSweep.TimeBound
