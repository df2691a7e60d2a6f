import CalibratedSweep.Json.Decode
import CalibratedSweep.Report.Basic
/-!
The report as a JSON document, written with its fields in a fixed order and read back. Reading
ignores unknown fields, takes a missing optional field for null, and refuses any other lack, a
value of the wrong kind and a number out of range.
-/

namespace CalibratedSweep.Report

open Json (string? uint32? uint64? count? float? list? field? optionalField? named)

def ofUInt32 (n : UInt32) : Json := .integer n.toNat

def ofUInt64 (n : UInt64) : Json := .integer n.toNat

def ofNat (n : Nat) : Json := .integer n

def Machine.toJson (m : Machine) : Json :=
  .object [("os", .string m.os), ("os_version", .string m.osVersion), ("cpu", .string m.cpu),
    ("cpu_cores", ofUInt32 m.cpuCores), ("memory_gb", .ofFloat m.memoryGb)]

def Meta.toJson (m : Meta) : Json :=
  .object [("schema_version", ofUInt32 m.schemaVersion), ("version", .string m.version),
    ("timestamp", .string m.timestamp.text), ("git_commit", .ofOption .string m.gitCommit),
    ("git_branch", .ofOption .string m.gitBranch), ("system", m.machine.toJson)]

def ofPair (p : ThreadPair) : Json := .array [ofUInt32 p.producers, ofUInt32 p.consumers]

def Settings.toJson (s : Settings) : Json :=
  .object [("worker", .string s.worker), ("probe", .ofOption .string s.probe),
    ("runs", ofUInt32 s.runs), ("ops", ofUInt64 s.ops), ("queues", .ofStrings s.queues),
    ("sizes", .array (s.sizes.map ofUInt64)), ("delays", .array (s.delays.map ofUInt64)),
    ("thread_pairs", .array (s.threadPairs.map ofPair)),
    ("timeout_floor_ms", ofUInt64 s.timeoutFloorMs), ("timeout_scale", .ofFloat s.timeoutScale),
    ("output", .string s.output)]

/-- The counters, without how long the sweep took. -/
def summaryFields (s : Summary) : List (String × Json) :=
  [("planned_configurations", ofNat s.planned), ("completed", ofNat s.completed),
    ("incomplete", ofNat s.incomplete), ("resumed", ofNat s.resumed),
    ("calibration_skipped", ofNat s.calibrationSkipped), ("invocations", ofNat s.invocations),
    ("failed_repetitions", ofNat s.failedRepetitions), ("timeouts", ofNat s.timeouts)]

def CalibrationEntry.toJson (e : CalibrationEntry) : Json :=
  .object [("delay_ns", ofUInt64 e.delay), ("center", .ofOption ofUInt64 e.center),
    ("amplitude", .ofOption ofUInt64 e.amplitude), ("error", .ofOption .string e.error)]

def IncompleteEntry.toJson (e : IncompleteEntry) : Json :=
  .object [("configuration", .string e.configuration), ("reason", .string e.reason)]

def toJson (r : Report) : Json :=
  .object [("meta", r.about.toJson), ("settings", r.settings.toJson),
    ("summary", .object (summaryFields r.summary ++ [("duration_ms", ofUInt64 r.durationMs)])),
    ("calibrations", .array (r.calibrations.map CalibrationEntry.toJson)),
    ("incomplete", .array (r.incomplete.map IncompleteEntry.toJson))]

def document (r : Report) : String := r.toJson.pretty

def timestamp? (j : Json) : Option Timestamp := (string? j).bind Timestamp.read?

def pair? : Json → Option ThreadPair
  | .array [p, c] => do return ⟨← uint32? p, ← uint32? c⟩
  | _ => none

def Machine.ofJson? (j : Json) : Option Machine := do
  let j ← named ["os", "os_version", "cpu", "cpu_cores", "memory_gb"] j
  return ⟨← field? "os" string? j, ← field? "os_version" string? j, ← field? "cpu" string? j,
    ← field? "cpu_cores" uint32? j, ← field? "memory_gb" float? j⟩

def Meta.ofJson? (j : Json) : Option Meta := do
  let j ← named ["schema_version", "version", "timestamp", "git_commit", "git_branch", "system"] j
  return ⟨← field? "schema_version" uint32? j, ← field? "version" string? j,
    ← field? "timestamp" timestamp? j,
    ← optionalField? "git_commit" string? j, ← optionalField? "git_branch" string? j,
    ← field? "system" Machine.ofJson? j⟩

def Settings.ofJson? (j : Json) : Option Settings := do
  let j ← named ["worker", "probe", "runs", "ops", "queues", "sizes", "delays", "thread_pairs",
    "timeout_floor_ms", "timeout_scale", "output"] j
  return ⟨← field? "worker" string? j, ← optionalField? "probe" string? j,
    ← field? "runs" uint32? j, ← field? "ops" uint64? j, ← field? "queues" (list? string?) j,
    ← field? "sizes" (list? uint64?) j, ← field? "delays" (list? uint64?) j,
    ← field? "thread_pairs" (list? pair?) j, ← field? "timeout_floor_ms" uint64? j,
    ← field? "timeout_scale" float? j, ← field? "output" string? j⟩

def summary? (j : Json) : Option (Summary × UInt64) := do
  let j ← named ["planned_configurations", "completed", "incomplete", "resumed",
    "calibration_skipped", "invocations", "failed_repetitions", "timeouts", "duration_ms"] j
  return (⟨← field? "planned_configurations" count? j, ← field? "completed" count? j,
    ← field? "incomplete" count? j, ← field? "resumed" count? j,
    ← field? "calibration_skipped" count? j, ← field? "invocations" count? j,
    ← field? "failed_repetitions" count? j, ← field? "timeouts" count? j⟩,
    ← field? "duration_ms" uint64? j)

def CalibrationEntry.ofJson? (j : Json) : Option CalibrationEntry := do
  let j ← named ["delay_ns", "center", "amplitude", "error"] j
  return ⟨← field? "delay_ns" uint64? j, ← optionalField? "center" uint64? j,
    ← optionalField? "amplitude" uint64? j, ← optionalField? "error" string? j⟩

def IncompleteEntry.ofJson? (j : Json) : Option IncompleteEntry := do
  let j ← named ["configuration", "reason"] j
  return ⟨← field? "configuration" string? j, ← field? "reason" string? j⟩

def ofJson? (j : Json) : Option Report := do
  let j ← named ["meta", "settings", "summary", "calibrations", "incomplete"] j
  let (summary, durationMs) ← field? "summary" summary? j
  return ⟨← field? "meta" Meta.ofJson? j, ← field? "settings" Settings.ofJson? j, summary,
    durationMs, ← field? "calibrations" (list? CalibrationEntry.ofJson?) j,
    ← field? "incomplete" (list? IncompleteEntry.ofJson?) j⟩

end CalibratedSweep.Report
