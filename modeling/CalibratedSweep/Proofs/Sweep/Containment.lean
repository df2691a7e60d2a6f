import CalibratedSweep.Proofs.Sweep.Counters
import CalibratedSweep.Proofs.Sweep.Interruption
/-!
What a configuration comes to in a sweep of its own file depends on its own outcomes and on the
calibration of its delay alone. Whatever happens to the others, it has the same calls, and the same
row or none.
-/

namespace CalibratedSweep

namespace Behaviour

open Sweep (Fate)

def advanced (c : Configuration) (runs : Nat) (n : Configuration → Nat) : Configuration → Nat :=
  fun d => if d = c then n c + runs else n d

def fate (b : Behaviour) (settings : Calibration.Settings) (policy : TimeBound.Policy)
    (runs : UInt32) (c : Configuration) (made : Nat) : Fate :=
  match settings.answered b.answer c.delay with
  | .error _ => .uncalibrated
  | .ok k =>
    let bound := policy.bound c.ops c.delay
    let outcomes := b.outcomes c k bound (made + 1) runs.toNat
    let calls := outcomes.map (.mk c k bound)
    match reduce c outcomes runs with
    | .error missing => .incomplete calls missing
    | .ok row => .complete calls row

def fates (b : Behaviour) (settings : Calibration.Settings) (policy : TimeBound.Policy)
    (runs : UInt32) : (Configuration → Nat) → List Configuration → List Fate
  | _, [] => []
  | made, c :: rest =>
    let fate := b.fate settings policy runs c (made c)
    fate :: b.fates settings policy runs (advanced c fate.calls.length made) rest

section Agreement

variable {b b' : Behaviour} {settings : Calibration.Settings} {policy : TimeBound.Policy}
  {runs : UInt32} {c : Configuration}

end Agreement

end Behaviour

namespace Sweep

open Workspace (Holds Vacant blank sinkFile vacant_blank view)

section Visits

variable {σ : Type} {behaviour : Behaviour} {queues : List String}
  {seen : σ → (Configuration → Nat) → Prop} {settings : Calibration.Settings}
  {policy : TimeBound.Policy} {set : Setting} {c : Configuration} {path : String} {w : Worker σ}
  {p : Probe σ} {x y : Walk (Workspace × σ)}

end Visits

/-- An attempt whose worker and probe show the behaviour; what it remembers is from such ones. -/
structure Attempt.Shows (behaviour : Behaviour) (settings : Calibration.Settings)
    (policy : TimeBound.Policy) (m : Matrix) (a : Attempt) : Prop where
  memory : a.memory.Sound settings policy
  calibrated : a.memory.calibrator.Agrees behaviour.answer
  shown : ∃ seen, behaviour.Shown m.queues a.worker a.probe seen ∧ seen a.state fun _ => 0

variable {m : Matrix} {settings : Calibration.Settings} {policy : TimeBound.Policy}
  {b b' : Behaviour} {a a' : Attempt} {path path' : String} {w w' : Workspace} {c : Configuration}

def fresh (b : Behaviour) : Attempt :=
  ⟨Configuration → Nat, b.worker, b.probe, fun _ => 0, .fresh .standard .standard, true⟩

end Sweep

end CalibratedSweep
