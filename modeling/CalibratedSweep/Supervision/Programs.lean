import CalibratedSweep.Affinity
import CalibratedSweep.Supervision.Launch
import CalibratedSweep.Supervision.Score
import CalibratedSweep.Sweep.Host
/-!
Workers and probes that are programs. A worker takes queue, producers, consumers, size, operations,
center, amplitude and perhaps an imbalance as arguments and prints a score; asked about a queue with
nothing to do, it only exits. A probe takes delay, tolerance, runs and checks. Either must succeed
within a bound; a run that takes longer counts as timed out, whatever it printed.
-/

namespace CalibratedSweep

structure WorkerProgram where
  binary : String
  workingDir : Option String
  imbalance : Option Int
  /-- How long a worker may take to say whether it knows a queue. -/
  validationBound : Duration
  affinity : Option Affinity
  deriving DecidableEq, Repr

namespace WorkerProgram

def arguments (p : WorkerProgram) (c : Configuration) (k : Calibration) : List String :=
  [c.queue, toString c.threads.producers, toString c.threads.consumers, toString c.capacity,
    toString c.ops, toString k.center, toString k.amplitude] ++
    p.imbalance.toList.map toString

def validationArguments (queue : String) : List String := [queue, "1", "1", "1", "0", "0", "0"]

/-- The processors of a run: one for each thread and one for the worker's own. -/
def processors (p : WorkerProgram) (c : Configuration) : List UInt64 :=
  (p.affinity.map fun a => a.select (c.threads.total.toNat + 1)).getD []

def validation (p : WorkerProgram) (queue : String) : Command :=
  ⟨p.binary, validationArguments queue, p.workingDir, []⟩

def measurement (p : WorkerProgram) (c : Configuration) (k : Calibration) : Command :=
  ⟨p.binary, p.arguments c k, p.workingDir, p.processors c⟩

def unstarted (p : WorkerProgram) (e : OsError) : String :=
  "failed to spawn " ++ p.binary ++ ": " ++ e.message

def outcome (p : WorkerProgram) (bound : Duration) (start : Except OsError (Supervised bound)) :
    Outcome :=
  match start with
  | .error e => .failure none (p.unstarted e)
  | .ok s =>
    match s.ending with
    | .timedOut => .timeout bound
    | .finished status stdout stderr =>
      if status.succeeded then
        match Score.read stdout with
        | .ok score => .success score
        | .error e => .failure status.code? e.message
      else .failure status.code? (status.diagnostic stderr)

def verdict (p : WorkerProgram) (start : Except OsError (Supervised p.validationBound)) :
    Except Rejection Unit :=
  match start with
  | .error e => .error ⟨none, p.unstarted e⟩
  | .ok s =>
    match s.ending with
    | .timedOut => .error ⟨none, "timed out after " ++ p.validationBound.text⟩
    | .finished status _ stderr =>
      if status.succeeded then .ok () else .error ⟨status.code?, status.diagnostic stderr⟩

def worker {σ : Type} (p : WorkerProgram) (launch : Launcher σ) : Worker σ where
  validate := fun queue world =>
    let (start, world) := launch (p.validation queue) p.validationBound world
    (p.verdict start, world)
  measure := fun c k bound world =>
    let (start, world) := launch (p.measurement c k) bound world
    (p.outcome bound start, world)

end WorkerProgram

structure ProbeProgram where
  binary : String
  workingDir : Option String
  bound : Duration
  deriving DecidableEq, Repr

namespace ProbeProgram

def answer (p : ProbeProgram) (delay : UInt64) (start : Except OsError (Supervised p.bound)) :
    Except Calibration.Error String :=
  match start with
  | .error e => .error ⟨delay, .unspawnable (p.binary ++ ": " ++ e.message)⟩
  | .ok s =>
    match s.ending with
    | .timedOut => .error ⟨delay, .timedOut p.bound⟩
    | .finished status stdout stderr =>
      if status.succeeded then .ok stdout
      else .error ⟨delay, .failed status.text (status.diagnostic stderr)⟩

def probe {σ : Type} (p : ProbeProgram) (launch : Launcher σ) : Probe σ := fun q world =>
  let (start, world) := launch ⟨p.binary, q.arguments, p.workingDir, []⟩ p.bound world
  (p.answer q.delay start, world)

end ProbeProgram

def missingProbe {σ : Type} : Probe σ := fun q world =>
  (.error ⟨q.delay, .unspawnable "no probe binary configured"⟩, world)

end CalibratedSweep
