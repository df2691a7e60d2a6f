import CalibratedSweep.CommandLine.Request
import CalibratedSweep.Files.Workspace
import CalibratedSweep.Supervision.Programs
import CalibratedSweep.Sweep.Run
import CalibratedSweep.SweepFile.Reader
/-!
What commands need before they begin: the sweep file, the worker and the probe. The file is the one
that the command line names, else the first `sweep.toml` from the current directory upwards, else
none at all.
-/

namespace CalibratedSweep.CommandLine

inductive CommandError where
  | sweepFile (path : String) (error : SweepFile.LoadError)
  | matrix (error : MatrixError)
  | timeout (error : SweepFile.TimeoutError)
  | noWorker
  | pinningFile (path : String) (error : Affinity.LoadError)
  | noProbe (minDelay : UInt64)
  | invalidQueues (queues : List String)
  | uncalibrated (failed total : Nat)
  | sweep (path : String) (error : SweepError)
  | report (path : String) (error : OsError)

def CommandError.message : CommandError → String
  | .sweepFile path e => e.message path
  | .matrix e => e.message
  | .timeout e => e.message
  | .noWorker => "no worker binary: set [worker].binary or pass --worker"
  | .pinningFile path e => "cannot read pinning file " ++ path ++ ": " ++ e.message
  | .noProbe minDelay =>
    "delays of " ++ toString minDelay ++
      "ns or more need a calibration probe: set [probe].binary or pass --probe"
  | .invalidQueues queues => (SweepError.invalidQueues queues).message ""
  | .uncalibrated failed total =>
    toString failed ++ " of " ++ toString total ++ " delays could not be calibrated"
  | .sweep path e => e.message path
  | .report path e => "cannot write report " ++ path ++ ": " ++ e.message

def absolutePath (p : Place) : String := "/" ++ "/".intercalate p

/-- A place and all those above it, from the inside out; names are the place's names backwards. -/
def upwards : List String → List Place
  | [] => [[]]
  | name :: above => (name :: above).reverse :: upwards above

def discovered (w : Workspace) : Option String :=
  ((upwards w.directory.reverse).map fun p => absolutePath (p ++ ["sweep.toml"])).find? fun path =>
    (w.files.stat w.directory path).isOk

def sweepFile (a : Arguments) (w : Workspace) : Except CommandError SweepFile :=
  match a.config.or (discovered w) with
  | none => .ok .standard
  | some path => (SweepFile.load w.files w.directory path).mapError (.sweepFile path)

def pinning (f : SweepFile) (w : Workspace) : Except CommandError (Option Affinity) :=
  match f.pinningFile with
  | none => .ok none
  | some path => ((Affinity.load w.files w.directory path).mapError (.pinningFile path)).map some

def pinningLog : Option Affinity → List String
  | none => []
  | some a =>
    if a.cpus.isEmpty then ["WARN pinning file lists no CPUs, workers run unpinned"]
    else ["INFO pinning workers"]

def workerProgram (a : Arguments) (f : SweepFile) (floor : Duration) (w : Workspace) :
    Except CommandError (WorkerProgram × List String) :=
  match a.worker.or f.worker.binary with
  | none => .error .noWorker
  | some binary =>
    match f.timeout.graceTime, pinning f w with
    | .error e, _ => .error (.timeout e)
    | .ok _, .error e => .error e
    | .ok _, .ok affinity =>
      .ok (⟨binary, f.worker.workingDir, f.worker.imbalance, floor,
        affinity.filter fun a => !a.cpus.isEmpty⟩, pinningLog affinity)

def probeBinary (a : Arguments) (f : SweepFile) : Option String := a.probe.or f.probe.binary

/-- The probe, which may be missing if no delay needs one. -/
def probeProgram (a : Arguments) (f : SweepFile) (delays : List UInt64) :
    Except CommandError (Option ProbeProgram) :=
  match probeBinary a f with
  | none =>
    if delays.any fun d => decide (f.probe.minDelay ≤ d) then .error (.noProbe f.probe.minDelay)
    else .ok none
  | some binary =>
    match f.timeout.policy, f.timeout.graceTime with
    | .error e, _ => .error (.timeout e)
    | .ok _, .error e => .error (.timeout e)
    | .ok policy, .ok _ => .ok (some ⟨binary, f.worker.workingDir, policy.floor⟩)

def probeOf {σ : Type} (launch : Launcher σ) : Option ProbeProgram → Probe σ
  | none => missingProbe
  | some p => p.probe launch

structure Setup where
  matrix : Matrix
  policy : TimeBound.Policy
  worker : WorkerProgram
  log : List String

def setup (a : Arguments) (f : SweepFile) (w : Workspace) : Except CommandError Setup :=
  match sweepMatrix a f, f.timeout.policy with
  | .error e, _ => .error (.matrix e)
  | .ok _, .error e => .error (.timeout e)
  | .ok m, .ok policy =>
    (workerProgram a f policy.floor w).map fun (worker, log) => ⟨m, policy, worker, log⟩

end CalibratedSweep.CommandLine
