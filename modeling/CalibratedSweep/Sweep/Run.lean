import CalibratedSweep.Plan.Basic
import CalibratedSweep.Sweep.Host
import CalibratedSweep.Sweep.Summary
import CalibratedSweep.TimeBound
/-!
A sweep. Queues are validated, the sink is opened, and the configurations of the plan are visited
in order: those whose row is there already are skipped, the delay is calibrated, runs are repeated
until one fails, and the outcomes become a row or an `Incomplete`. A sweep fails only on a rejected
queue or on the sink; what was written by then stays.

`Memory` is what is kept from sweep to sweep.
-/

namespace CalibratedSweep

structure Memory where
  calibrator : Calibrator
  bounds : TimeBound.Table

def Memory.fresh (settings : Calibration.Settings) (policy : TimeBound.Policy) : Memory :=
  ⟨.empty settings, .empty policy⟩

inductive SweepError where
  | invalidQueues (queues : List String)
  | sink (error : SinkError)
  deriving DecidableEq, Repr

def SweepError.message (path : String) : SweepError → String
  | .invalidQueues queues => "invalid queues: " ++ ", ".intercalate queues
  | .sink e => "result sink failed: " ++ e.message path

namespace Sweep

structure Findings where
  summary : Summary
  incomplete : List Incomplete
  calibrations : List (UInt64 × CalibrationResult)
  schema : Schema

structure Walk (σ : Type) where
  world : σ
  memory : Memory
  summary : Summary
  progress : Progress
  incomplete : List Incomplete

structure Setting where
  schema : Schema
  runs : UInt32
  completed : List RowKey

def runNotice (repetition : Nat) (c : Configuration) : Outcome → List Event
  | .success _ => []
  | .failure code reason => [.noticed (.runFailed repetition c (.failure code reason))]
  | .timeout _ => [.noticed (.runTimedOut repetition c)]

structure Count where
  summary : Summary
  progress : Progress

/--
Repeats a configuration up to `left` times, numbering from `repetition`, and stops after the first
run without a score. Runs that are no longer made leave the total.
-/
def repeatRuns {σ : Type} (w : Worker σ) (c : Configuration) (k : Calibration) (bound : Duration)
    (repetition : Nat) : Nat → Count → σ → List Event × List Outcome × Count × σ
  | 0, n, world => ([], [], n, world)
  | left + 1, n, world =>
    let (outcome, world) := w.measure c k bound world
    let n : Count := ⟨n.summary.countRun outcome, n.progress.attempt⟩
    let events := .measured c k bound outcome :: runNotice repetition c outcome
    if outcome.isSuccess then
      let (later, outcomes, n, world) := repeatRuns w c k bound (repetition + 1) left n world
      (events ++ later, outcome :: outcomes, n, world)
    else (events, [outcome], { n with progress := n.progress.forgo (.ofNat left) }, world)

def calibrationEvents (delay : UInt64) (probed : Option Calibration.Request) :
    CalibrationResult → List Event
  | .ok k => match probed with
    | none => []
    | some q => [.probed q, .noticed (.delayCalibrated delay k)]
  | .error e => match probed with
    | none => []
    | some q => [.probed q, .noticed (.calibrationFailed delay e)]

def skipDone {σ : Type} (set : Setting) (s : Walk σ) : Walk σ :=
  { s with
    summary := { s.summary with resumed := s.summary.resumed + 1 }
    progress := s.progress.forgo set.runs.toUInt64 }

def skipUncalibrated {σ : Type} (set : Setting) (s : Walk σ) : Walk σ :=
  { s with
    summary := { s.summary with calibrationSkipped := s.summary.calibrationSkipped + 1 }
    progress := s.progress.forgo set.runs.toUInt64 }

def conclude {σ : Type} (h : Host σ) (set : Setting) (c : Configuration) (outcomes : List Outcome)
    (s : Walk σ) : List Event × Except SinkError Unit × Walk σ :=
  match reduce c outcomes set.runs with
  | .error missing =>
    let s := { s with
      summary := { s.summary with incomplete := s.summary.incomplete + 1 }
      incomplete := s.incomplete ++ [missing] }
    ([.noticed (.incomplete missing), .noticed (.progress c s.progress)], .ok (), s)
  | .ok row =>
    match Sink.writeRow h.sink set.schema row s.world with
    | (.error e, world) => ([.noticed (.rowWritten row)], .error e, { s with world })
    | (.ok (), world) =>
      let s := { s with
        world, summary := { s.summary with completed := s.summary.completed + 1 } }
      ([.noticed (.rowWritten row), .appended row, .noticed (.rowFlushed row),
        .noticed (.progress c s.progress)], .ok (), s)

def visit {σ : Type} (h : Host σ) (set : Setting) (c : Configuration) (s : Walk σ) :
    List Event × Except SinkError Unit × Walk σ :=
  if set.schema.keyOf (.ofConfiguration c set.runs) ∈ set.completed then ([], .ok (), skipDone set s)
  else
    let r := s.memory.calibrator.resolve h.probe c.delay s.world
    let events := calibrationEvents c.delay r.probed r.result
    let s := { s with world := r.world, memory := { s.memory with calibrator := r.calibrator } }
    match r.result with
    | .error e => (events ++ [.noticed (.uncalibrated c e)], .ok (), skipUncalibrated set s)
    | .ok k =>
      let (bound, bounds) := s.memory.bounds.bound c.ops c.delay
      let (runs, outcomes, n, world) :=
        repeatRuns h.worker c k bound 1 set.runs.toNat ⟨s.summary, s.progress⟩ s.world
      let s := { s with
        world, memory := { s.memory with bounds }, summary := n.summary, progress := n.progress }
      let (last, result, s) := conclude h set c outcomes s
      (events ++ runs ++ last, result, s)

def visitAll {σ : Type} (h : Host σ) (set : Setting) :
    List Configuration → Walk σ → List Event × Except SinkError Unit × Walk σ
  | [], s => ([], .ok (), s)
  | c :: rest, s =>
    match visit h set c s with
    | (events, .error e, s) => (events, .error e, s)
    | (events, .ok (), s) =>
      let (later, result, s) := visitAll h set rest s
      (events ++ later, result, s)

structure Ending (σ : Type) where
  events : List Event
  result : Except SweepError Findings
  memory : Memory
  world : σ

def completedRows {σ : Type} (h : Host σ) (s : Schema) (resume : Bool) (world : σ) :
    Except SinkError (List RowKey) :=
  if resume then Sink.completed h.sink s world else .ok []

def openSink {σ : Type} (h : Host σ) (s : Schema) (resume : Bool) (world : σ) :
    Except SinkError Unit × σ :=
  if resume then Sink.append h.sink s world else Sink.create h.sink s world

def sweepOpened {σ : Type} (h : Host σ) (m : Matrix) (memory : Memory) (set : Setting) (world : σ) :
    Ending σ :=
  let plan := m.plan
  let begun : Walk σ :=
    ⟨world, memory, .start plan.configurations.length, ⟨0, plan.totalRuns⟩, []⟩
  match visitAll h set plan.configurations begun with
  | (events, .error e, s) =>
    ⟨.noticed .sweepStarted :: events, .error (.sink e), s.memory, s.world⟩
  | (events, .ok (), s) =>
    ⟨.noticed .sweepStarted :: events ++ [.noticed .sweepFinished],
      .ok ⟨s.summary, s.incomplete, s.memory.calibrator.entries, set.schema⟩, s.memory, s.world⟩

def run {σ : Type} (h : Host σ) (m : Matrix) (resume : Bool) (memory : Memory) (world : σ) :
    Ending σ :=
  let (checks, invalid, world) := validateQueues h.worker m.queues world
  if invalid.isEmpty then
    let schema := Schema.forDelays m.delays memory.calibrator.settings.minDelay
    match completedRows h schema resume world with
    | .error e => ⟨checks, .error (.sink e), memory, world⟩
    | .ok completed =>
      match openSink h schema resume world with
      | (.error e, world) => ⟨checks, .error (.sink e), memory, world⟩
      | (.ok (), world) =>
        let r := sweepOpened h m memory ⟨schema, m.runs, completed⟩ world
        { r with events := checks ++ r.events }
  else ⟨checks, .error (.invalidQueues (invalid.map Prod.fst)), memory, world⟩

end Sweep

end CalibratedSweep
