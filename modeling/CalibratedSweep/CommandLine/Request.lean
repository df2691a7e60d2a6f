import CalibratedSweep.CommandLine.Basic
import CalibratedSweep.Pattern.Meaning
import CalibratedSweep.Pattern.Reader
import CalibratedSweep.SweepFile.Basic
/-!
The sweep that a sweep file and a command line ask for together. What the command line sets goes
before the file; a sweep that would visit nothing, or that has nobody on one side of a queue, is
refused.
-/

namespace CalibratedSweep.CommandLine

inductive MatrixError where
  | badFilter
  | noQueues
  | noThreadPairs
  | oneSided (pair : ThreadPair)
  | noRuns
  deriving DecidableEq, Repr

def MatrixError.message : MatrixError → String
  | .badFilter => "invalid --filter"
  | .noQueues => "no queues to sweep: set [sweep].queues (or loosen --filter)"
  | .noThreadPairs => "no thread pairs: set [sweep].threads, or [sweep].shapes with thread_counts"
  | .oneSided p => "thread pair " ++ p.text ++ " needs at least one producer and one consumer"
  | .noRuns => "runs must be at least 1"

def filter? (pattern : Option String) : Option (String → Bool) :=
  match pattern with
  | none => some fun _ => true
  | some p => (Pattern.compile? p).map fun r => Pattern.found r

/-- The axes of the sweep, checked in a fixed order. -/
def sweepMatrix (a : Arguments) (f : SweepFile) : Except MatrixError Matrix :=
  match filter? a.filter with
  | none => .error .badFilter
  | some keep =>
    let queues := selectQueues keep f.sweep.queues
    let pairs := threadPairs f.sweep.threads f.sweep.shapes f.sweep.threadCounts
    let runs := a.runs.getD f.sweep.runs
    if queues.isEmpty then .error .noQueues
    else if pairs.isEmpty then .error .noThreadPairs
    else
      match pairs.find? fun p => p.producers == 0 || p.consumers == 0 with
      | some p => .error (.oneSided p)
      | none =>
        if runs = 0 then .error .noRuns
        else .ok ⟨queues, pairs, f.sweep.sizes, f.sweep.delays, a.ops.getD f.sweep.ops, runs⟩

end CalibratedSweep.CommandLine
