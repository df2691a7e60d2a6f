import CalibratedSweep.Report.Timestamp
import CalibratedSweep.Sweep.Run

namespace CalibratedSweep.Report

structure Machine where
  os : String
  osVersion : String
  cpu : String
  cpuCores : UInt32
  memoryGb : Float

structure Meta where
  schemaVersion : UInt32
  version : String
  timestamp : Timestamp
  gitCommit : Option String
  gitBranch : Option String
  machine : Machine

structure Settings where
  worker : String
  probe : Option String
  runs : UInt32
  ops : UInt64
  queues : List String
  sizes : List UInt64
  delays : List UInt64
  threadPairs : List ThreadPair
  timeoutFloorMs : UInt64
  timeoutScale : Float
  output : String

structure CalibrationEntry where
  delay : UInt64
  center : Option UInt64
  amplitude : Option UInt64
  error : Option String
  deriving DecidableEq, Repr

def CalibrationEntry.ofResult (delay : UInt64) : CalibrationResult → CalibrationEntry
  | .ok c => ⟨delay, some c.center, some c.amplitude, none⟩
  | .error e => ⟨delay, none, none, some e.message⟩

structure IncompleteEntry where
  configuration : String
  reason : String
  deriving DecidableEq, Repr

def IncompleteEntry.ofIncomplete (i : Incomplete) : IncompleteEntry :=
  ⟨i.configuration.text, i.reason⟩

end CalibratedSweep.Report

namespace CalibratedSweep

structure Report where
  about : Report.Meta
  settings : Report.Settings
  summary : Summary
  durationMs : UInt64
  calibrations : List Report.CalibrationEntry
  incomplete : List Report.IncompleteEntry

def Report.ofFindings (about : Report.Meta) (settings : Report.Settings) (durationMs : UInt64)
    (f : Sweep.Findings) : Report where
  about := about
  settings := settings
  summary := f.summary
  durationMs := durationMs
  calibrations := f.calibrations.map fun (d, r) => .ofResult d r
  incomplete := f.incomplete.map .ofIncomplete

end CalibratedSweep
