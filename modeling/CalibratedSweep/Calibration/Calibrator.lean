import CalibratedSweep.Calibration.Basic
/-!
The calibrator resolves delays to calibrations. Delays below the threshold need no probe; any
other delay is probed at most once, and its result, good or bad, is kept.
-/

namespace CalibratedSweep

/-- A probe answers a request with its output, or with an error of its own making. -/
abbrev Probe (σ : Type) := Calibration.Request → σ → Except Calibration.Error String × σ

abbrev CalibrationResult := Except Calibration.Error Calibration

/-- Settings, and the results so far in the order of probing. -/
structure Calibrator where
  settings : Calibration.Settings
  results : List (UInt64 × CalibrationResult)

namespace Calibrator

def empty (s : Calibration.Settings) : Calibrator := ⟨s, []⟩

structure Resolution (σ : Type) where
  result : CalibrationResult
  probed : Option Calibration.Request
  calibrator : Calibrator
  world : σ

/-- What a probe's answer means for `delay`. An error of the probe is taken as it is. -/
def interpret (delay : UInt64) (answer : Except Calibration.Error String) : CalibrationResult :=
  answer.bind fun stdout => (Calibration.read stdout).mapError (Calibration.Error.mk delay)

def resolve {σ : Type} (probe : Probe σ) (c : Calibrator) (delay : UInt64) (world : σ) :
    Resolution σ :=
  if delay < c.settings.minDelay then ⟨.ok .none, none, c, world⟩
  else
    match c.results.lookup delay with
    | some result => ⟨result, none, c, world⟩
    | none =>
      let request := c.settings.request delay
      let (answer, world) := probe request world
      let result := interpret delay answer
      ⟨result, some request, { c with results := c.results ++ [(delay, result)] }, world⟩

/-- Every probed delay with its result, by delay. -/
def entries (c : Calibrator) : List (UInt64 × CalibrationResult) :=
  c.results.mergeSort fun a b => a.1 ≤ b.1

end Calibrator

end CalibratedSweep
