import CalibratedSweep.CommandLine.PlanTree
import CalibratedSweep.CommandLine.Setup
import CalibratedSweep.Report.Document
import CalibratedSweep.Report.Human
import CalibratedSweep.SweepFile.Template
/-!
The commands. Each works on the files of a workspace, starts programs by a launcher, and leaves
behind what it printed and logged, whether it failed, and the files as they are then.
-/

namespace CalibratedSweep.CommandLine

structure Transcript where
  stdout : String
  log : List String
  result : Except CommandError Unit
  workspace : Workspace

def Transcript.failed (e : CommandError) (w : Workspace) : Transcript := ⟨"", [], .error e, w⟩

/-- What a sweep cannot find out by itself and only its report shows. -/
structure Circumstances where
  about : Report.Meta
  durationMs : UInt64

def plan (a : Arguments) (f : SweepFile) (w : Workspace) : Transcript :=
  match sweepMatrix a f with
  | .error e => .failed (.matrix e) w
  | .ok m => ⟨PlanTree.text m, [], .ok (), w⟩

def verdictLine (invalid : List (String × Rejection)) (queue : String) : String :=
  match invalid.lookup queue with
  | some r => "  ✗ " ++ queue ++ " (" ++ r.text ++ ")\n"
  | none => "  ✓ " ++ queue ++ "\n"

def validate (launch : Launcher Workspace) (a : Arguments) (f : SweepFile) (w : Workspace) :
    Transcript :=
  match setup a f w with
  | .error e => .failed e w
  | .ok s =>
    let queues := s.matrix.queues
    let (events, invalid, w) := validateQueues (s.worker.worker launch) queues w
    let verdicts := String.join (queues.map (verdictLine invalid))
    let log := s.log ++ Event.log events
    if invalid.isEmpty then
      ⟨verdicts ++ toString queues.length ++ " queues valid.\n", log, .ok (), w⟩
    else ⟨verdicts, log, .error (.invalidQueues (invalid.map Prod.fst)), w⟩

def resolveAll {σ : Type} (probe : Probe σ) : List UInt64 → Calibrator → σ →
    List Event × List (UInt64 × CalibrationResult) × σ
  | [], _, world => ([], [], world)
  | d :: rest, c, world =>
    let r := c.resolve probe d world
    let (events, results, world) := resolveAll probe rest r.calibrator r.world
    (Sweep.calibrationEvents d r.probed r.result ++ events, (d, r.result) :: results, world)

def calibrationLine : UInt64 × CalibrationResult → String
  | (d, .ok c) => toString d ++ " " ++ toString c.center ++ " " ++ toString c.amplitude ++ "\n"
  | (d, .error e) => toString d ++ " error: " ++ e.message ++ "\n"

def calibrate (launch : Launcher Workspace) (a : Arguments) (f : SweepFile) (w : Workspace) :
    Transcript :=
  let delays := f.sweep.delays
  match probeProgram a f delays with
  | .error e => .failed e w
  | .ok probe =>
    let (events, results, w) :=
      resolveAll (probeOf launch probe) delays (.empty f.probe.settings) w
    let failed := results.countP fun r => !r.2.isOk
    let result := if failed = 0 then .ok () else .error (.uncalibrated failed delays.length)
    ⟨String.join (results.map calibrationLine), Event.log events, result, w⟩

def reportSettings (a : Arguments) (f : SweepFile) (s : Setup) (output : String) :
    Report.Settings where
  worker := s.worker.binary
  probe := probeBinary a f
  runs := s.matrix.runs
  ops := s.matrix.ops
  queues := s.matrix.queues
  sizes := s.matrix.sizes
  delays := s.matrix.delays
  threadPairs := s.matrix.threadPairs
  timeoutFloorMs := UInt64.ofNat (s.policy.floor.millis)
  timeoutScale := s.policy.scale
  output := output

def heading (m : Matrix) : String :=
  "Sweeping " ++ toString m.queues.length ++ " queue(s), " ++ toString m.threadPairs.length ++
    " thread pair(s), " ++ toString m.sizes.length ++ " size(s), " ++ toString m.delays.length ++
    " delay(s), " ++ toString m.runs ++ " runs each...\n\n"

def writeReport (path : Option String) (r : Report) (w : Workspace) :
    Except CommandError Workspace :=
  match path with
  | none => .ok w
  | some path =>
    match w.files.write w.directory path (Bytes.ofText r.document) with
    | .error e => .error (.report path e)
    | .ok files => .ok { w with files }

def conclusion (path : Option String) (output : String) (r : Report) : String :=
  let written := match path with
    | some path => "Report written to: " ++ path ++ "\n"
    | none => ""
  written ++ r.human ++ "Results written to: " ++ output ++ "\n"

def sweep (launch : Launcher Workspace) (t : Circumstances) (a : Arguments) (f : SweepFile)
    (w : Workspace) : Transcript :=
  match setup a f w with
  | .error e => .failed e w
  | .ok s =>
    match probeProgram a f s.matrix.delays with
    | .error e => ⟨"", s.log, .error e, w⟩
    | .ok probe =>
      let output := a.output.getD f.output.csv
      let path := a.report.or f.output.report
      let shown (text : String) := if a.quiet then "" else text
      let host : Host Workspace :=
        ⟨s.worker.worker launch, probeOf launch probe, Workspace.output output⟩
      let r := Sweep.run host s.matrix (a.resume || f.output.resume)
        (.fresh f.probe.settings s.policy) w
      let w := { r.world with sink := none }
      let log := s.log ++ Event.log r.events
      match r.result with
      | .error e => ⟨shown (heading s.matrix), log, .error (.sweep output e), w⟩
      | .ok findings =>
        let report := Report.ofFindings t.about (reportSettings a f s output) t.durationMs findings
        match writeReport path report w with
        | .error e => ⟨shown (heading s.matrix), log, .error e, w⟩
        | .ok w => ⟨shown (heading s.matrix ++ conclusion path output report), log, .ok (), w⟩

def perform (launch : Launcher Workspace) (t : Circumstances) (action : Action) (a : Arguments)
    (w : Workspace) : Transcript :=
  if action = .init then ⟨SweepFile.template, [], .ok (), w⟩
  else
    match sweepFile a w with
    | .error e => .failed e w
    | .ok f =>
      match action with
      | .plan => plan a f w
      | .validate => validate launch a f w
      | .calibrate => calibrate launch a f w
      | .run | .init => sweep launch t a f w

end CalibratedSweep.CommandLine
