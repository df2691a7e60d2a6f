import CalibratedSweep.Sink.Basic
import CalibratedSweep.Sweep.Event

namespace CalibratedSweep

structure Worker (σ : Type) where
  validate : String → σ → Except Rejection Unit × σ
  measure : Configuration → Calibration → Duration → σ → Outcome × σ

structure Host (σ : Type) where
  worker : Worker σ
  probe : Probe σ
  sink : SinkFile σ

def Worker.onSecond {ρ σ : Type} (w : Worker σ) : Worker (ρ × σ) where
  validate := fun q s => let r := w.validate q s.2; (r.1, (s.1, r.2))
  measure := fun c k b s => let r := w.measure c k b s.2; (r.1, (s.1, r.2))

def Probe.onSecond {ρ σ : Type} (p : Probe σ) : Probe (ρ × σ) :=
  fun q s => let r := p q s.2; (r.1, (s.1, r.2))

def SinkFile.onFirst {ρ σ : Type} (f : SinkFile ρ) : SinkFile (ρ × σ) where
  view := fun s => f.view s.1
  start := fun m s => let r := f.start m s.1; (r.1, (r.2, s.2))
  extend := fun b s => let r := f.extend b s.1; (r.1, (r.2, s.2))

def Host.apart {ρ σ : Type} (w : Worker σ) (p : Probe σ) (f : SinkFile ρ) : Host (ρ × σ) :=
  ⟨w.onSecond, p.onSecond, f.onFirst⟩

/-- Every queue is tried once, in order; the rejected ones are returned. -/
def validateQueues {σ : Type} (w : Worker σ) : List String → σ →
    List Event × List (String × Rejection) × σ
  | [], world => ([], [], world)
  | q :: rest, world =>
    match w.validate q world with
    | (.ok (), world) =>
      let (events, invalid, world) := validateQueues w rest world
      (.validated q :: .noticed (.queueValidated q) :: events, invalid, world)
    | (.error r, world) =>
      let (events, invalid, world) := validateQueues w rest world
      (.validated q :: .noticed (.queueRejected q r) :: events, (q, r) :: invalid, world)

end CalibratedSweep
