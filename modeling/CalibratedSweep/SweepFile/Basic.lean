import CalibratedSweep.Calibration.Basic
import CalibratedSweep.Duration.Reader
import CalibratedSweep.Plan.Basic
import CalibratedSweep.TimeBound
/-!
The description of a sweep, as the file `sweep.toml` gives it: a section each for the worker, the
probe, the matrix, time bounds, output and pinning. Every field has a default.
-/

namespace CalibratedSweep.SweepFile

structure WorkerSection where
  binary : Option String
  /-- The directory the worker runs in; without it, the current one. -/
  workingDir : Option String
  imbalance : Option Int
  deriving DecidableEq, Repr

def WorkerSection.standard : WorkerSection := ⟨none, none, none⟩

structure ProbeSection where
  binary : Option String
  runs : UInt64
  checks : UInt64
  minDelay : UInt64
  deriving DecidableEq, Repr

def ProbeSection.standard : ProbeSection :=
  let s := Calibration.Settings.standard
  ⟨none, s.runs, s.checks, s.minDelay⟩

def ProbeSection.settings (p : ProbeSection) : Calibration.Settings := ⟨p.minDelay, p.runs, p.checks⟩

structure MatrixSection where
  queues : List String
  threads : List ThreadPair
  shapes : List ThreadShape
  threadCounts : List UInt32
  sizes : List UInt64
  delays : List UInt64
  ops : UInt64
  runs : UInt32
  deriving DecidableEq, Repr

def MatrixSection.standard : MatrixSection := ⟨[], [], [], [], [64], [0], 100000, 10⟩

structure TimeoutSection where
  floor : String
  scale : Float
  /-- How long a worker is given to end by itself once it is told to. -/
  grace : String

def TimeoutSection.standard : TimeoutSection := ⟨"120s", 1.5, "500ms"⟩

inductive TimeoutError where
  | badDuration (error : Duration.ReadError)
  | badScale (scale : Float)

def TimeoutError.message : TimeoutError → String
  | .badDuration e => e.message
  | .badScale x => "timeout.scale must be a positive number, got " ++ Decimal.scoreText x

/-- The policy of a section. The floor is read first. -/
def TimeoutSection.policy (t : TimeoutSection) : Except TimeoutError TimeBound.Policy :=
  match Duration.read t.floor with
  | .error e => .error (.badDuration e)
  | .ok floor =>
    if t.scale.isFinite && 0.0 < t.scale then .ok ⟨floor, t.scale⟩ else .error (.badScale t.scale)

def TimeoutSection.graceTime (t : TimeoutSection) : Except TimeoutError Duration :=
  (Duration.read t.grace).mapError .badDuration

structure OutputSection where
  csv : String
  report : Option String
  resume : Bool
  deriving DecidableEq, Repr

def OutputSection.standard : OutputSection := ⟨"sweep.csv", none, false⟩

end CalibratedSweep.SweepFile

namespace CalibratedSweep

structure SweepFile where
  worker : SweepFile.WorkerSection
  probe : SweepFile.ProbeSection
  sweep : SweepFile.MatrixSection
  timeout : SweepFile.TimeoutSection
  output : SweepFile.OutputSection
  pinningFile : Option String

def SweepFile.standard : SweepFile := ⟨.standard, .standard, .standard, .standard, .standard, none⟩

end CalibratedSweep
