import CalibratedSweep.Proofs.Calibration.History

namespace CalibratedSweep

def Calibrator.delays (k : Calibrator) : List UInt64 := k.results.map Prod.fst

namespace Calibrator

def Needs (k : Calibrator) (delay : UInt64) : Prop :=
  ¬delay < k.settings.minDelay ∧ delay ∉ k.delays

instance (k : Calibrator) (delay : UInt64) : Decidable (k.Needs delay) :=
  inferInstanceAs (Decidable (_ ∧ _))

theorem known?_eq_none_iff {k : Calibrator} {delay : UInt64} :
    k.known? delay = none ↔ k.Needs delay := by
  unfold known? Needs
  split
  · rename_i hmin
    simp [hmin]
  · rename_i hmin
    rw [lookup_eq_none_iff_not_mem, delays]
    simp [hmin]

variable {σ : Type} (p : Probe σ) (k : Calibrator) (delay : UInt64) (world : σ)

theorem probed_resolve : (k.resolve p delay world).probed =
    if k.Needs delay then some (k.settings.request delay) else none := by
  cases hk : k.known? delay with
  | some result =>
    have hneeds : ¬k.Needs delay := by
      rw [← known?_eq_none_iff, hk]
      exact nofun
    rw [resolve_of_known hk, if_neg hneeds]
  | none => rw [resolve_of_unknown hk, if_pos (known?_eq_none_iff.mp hk)]

theorem delays_resolve : (k.resolve p delay world).calibrator.delays =
    k.delays ++ (k.resolve p delay world).probed.toList.map Calibration.Request.delay := by
  cases hk : k.known? delay with
  | some result =>
    rw [resolve_of_known hk]
    simp
  | none =>
    rw [resolve_of_unknown hk]
    simp [delays, Calibration.Settings.request]

end Calibrator

end CalibratedSweep
