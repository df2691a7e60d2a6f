import CalibratedSweep.Duration.Basic
import CalibratedSweep.Text.Blank
import CalibratedSweep.Text.Lines
import CalibratedSweep.Text.Quoted
/-!
Calibrations: the center and the amplitude of a busy wait that a probe found for a delay. A probe
prints them on its first two lines.
-/

namespace CalibratedSweep

structure Calibration where
  center : UInt64
  amplitude : UInt64
  deriving DecidableEq, Repr

namespace Calibration

def none : Calibration := ⟨0, 0⟩

def isNone (c : Calibration) : Bool := c == none

inductive Failure where
  | unspawnable (message : String)
  | failed (status : String) (stderr : String)
  | timedOut (bound : Duration)
  | missingOutput (lines : Nat)
  | invalidValue (line : String)
  deriving DecidableEq, Repr

structure Error where
  delay : UInt64
  failure : Failure
  deriving DecidableEq, Repr

def Error.message (e : Error) : String :=
  let probe := "calibration probe for " ++ toString e.delay ++ "ns "
  match e.failure with
  | .unspawnable m => "failed to spawn calibration probe for " ++ toString e.delay ++ "ns: " ++ m
  | .failed status stderr => probe ++ "exited with " ++ status ++ ": " ++ stderr
  | .timedOut bound => probe ++ "timed out after " ++ bound.text
  | .missingOutput n => probe ++ "printed " ++ toString n ++ " line(s), expected at least 2"
  | .invalidValue line => probe ++ "printed non-integer line " ++ Text.quoted line

structure Request where
  delay : UInt64
  tolerance : UInt64
  runs : UInt64
  checks : UInt64
  deriving DecidableEq, Repr

def Request.arguments (r : Request) : List String :=
  [toString r.delay, toString r.tolerance, toString r.runs, toString r.checks]

/-- Delays below `minDelay` need no probe; the rest goes to the probe as it is. -/
structure Settings where
  minDelay : UInt64
  runs : UInt64
  checks : UInt64
  deriving DecidableEq, Repr

def Settings.standard : Settings := ⟨100, 1000, 5⟩

/-- The request for a delay: a tenth of it is tolerated. -/
def Settings.request (s : Settings) (delay : UInt64) : Request :=
  ⟨delay, delay / 10, s.runs, s.checks⟩

def readLine (line : List Char) : Except Failure UInt64 :=
  match Numeral.uint64? (Text.trim line) with
  | some n => .ok n
  | Option.none => .error (.invalidValue (String.ofList line))

def read (stdout : String) : Except Failure Calibration :=
  match Text.lines stdout.toList with
  | [] => .error (.missingOutput 0)
  | [_] => .error (.missingOutput 1)
  | first :: second :: _ => do
    let center ← readLine first
    let amplitude ← readLine second
    return ⟨center, amplitude⟩

end Calibration

end CalibratedSweep
