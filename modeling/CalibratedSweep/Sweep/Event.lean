import CalibratedSweep.Calibration.Calibrator
import CalibratedSweep.Row

namespace CalibratedSweep

inductive Level where
  | debug
  | info
  | warn
  | error
  deriving DecidableEq, Repr

namespace Level

def name : Level → String
  | debug => "DEBUG"
  | info => "INFO"
  | warn => "WARN"
  | error => "ERROR"

def rank : Level → Nat
  | debug => 0
  | info => 1
  | warn => 2
  | error => 3

end Level

/-- How far a sweep is: runs attempted, and runs that it still comes to in the end. -/
structure Progress where
  step : UInt64
  total : UInt64
  deriving DecidableEq, Repr

namespace Progress

def attempt (p : Progress) : Progress := { p with step := p.step + 1 }

theorem toNat_attempt {p : Progress} (h : p.step.toNat + 1 < 0x10000000000000000) :
    p.attempt.step.toNat = p.step.toNat + 1 := by
  rw [attempt, UInt64.toNat_add]
  exact Nat.mod_eq_of_lt h

/-- Takes runs that will never be made out of the total, which stops at zero. -/
def forgo (p : Progress) (runs : UInt64) : Progress :=
  { p with total := if runs ≤ p.total then p.total - runs else 0 }

theorem toNat_forgo (p : Progress) (runs : UInt64) :
    (p.forgo runs).total.toNat = p.total.toNat - runs.toNat := by
  unfold forgo
  dsimp only
  split <;> rename_i h <;> rw [UInt64.le_iff_toNat_le] at h
  · rw [UInt64.toNat_sub_of_le _ _ h]
  · rw [UInt64.toNat_zero]
    omega

def percent (p : Progress) : Float :=
  if p.total = 0 then 100.0 else p.step.toFloat * 100.0 / p.total.toFloat

def text (p : Progress) : String :=
  toString p.step ++ "/" ++ toString p.total ++ " (" ++
    String.ofList (Decimal.fixed 2 p.percent) ++ "%)"

end Progress

/-- Of what is logged for debugging, only what the sink says of its rows is kept. -/
inductive Notice where
  | queueValidated (queue : String)
  | queueRejected (queue : String) (rejection : Rejection)
  | sweepStarted
  | delayCalibrated (delay : UInt64) (calibration : Calibration)
  | calibrationFailed (delay : UInt64) (error : Calibration.Error)
  | uncalibrated (configuration : Configuration) (error : Calibration.Error)
  | runFailed (repetition : Nat) (configuration : Configuration) (outcome : Outcome)
  | runTimedOut (repetition : Nat) (configuration : Configuration)
  | rowWritten (row : Row)
  | rowFlushed (row : Row)
  | incomplete (missing : Incomplete)
  | progress (configuration : Configuration) (progress : Progress)
  | sweepFinished

namespace Notice

def level : Notice → Level
  | .queueRejected _ _ | .runFailed _ _ _ | .runTimedOut _ _ => .error
  | .calibrationFailed _ _ | .uncalibrated _ _ | .incomplete _ => .warn
  | .rowFlushed _ => .debug
  | _ => .info

def text : Notice → String
  | .queueValidated _ => "queue validated"
  | .queueRejected _ _ => "invalid queue"
  | .sweepStarted => "starting sweep"
  | .delayCalibrated _ _ => "calibrated delay"
  | .calibrationFailed _ _ => "calibration failed"
  | .uncalibrated _ _ => "skipping configuration, delay not calibrated"
  | .runFailed n c o =>
    "Error in run " ++ toString n ++ " for queue " ++ c.queue ++ " " ++ c.threads.text ++ ": " ++ o.text
  | .runTimedOut n c =>
    "Timeout in run " ++ toString n ++ " for queue " ++ c.queue ++ " " ++ c.threads.text
  | .rowWritten _ | .rowFlushed _ => "row written"
  | .incomplete i => "incomplete runs for " ++ i.text
  | .progress c p =>
    "[" ++ c.queue ++ " " ++ c.threads.text ++ " size:" ++ toString c.capacity ++ " delay:" ++
      toString c.delay ++ "] " ++ p.text
  | .sweepFinished => "sweep finished"

end Notice

inductive Event where
  | validated (queue : String)
  | measured (configuration : Configuration) (calibration : Calibration) (bound : Duration)
      (outcome : Outcome)
  | probed (request : Calibration.Request)
  | appended (row : Row)
  | noticed (notice : Notice)

def Event.notice? : Event → Option Notice
  | .noticed n => some n
  | _ => none

def Notice.logLine (n : Notice) : String := n.level.name ++ " " ++ n.text

namespace Event

def logFrom (threshold : Level) (events : List Event) : List String :=
  ((events.filterMap notice?).filter fun n => threshold.rank ≤ n.level.rank).map Notice.logLine

def log (events : List Event) : List String := logFrom .info events

end Event

end CalibratedSweep
