import CalibratedSweep.Report.Basic

namespace CalibratedSweep.Report

/-- Milliseconds as `850ms`, `12.3s`, `4m 05s` or `2h 03m`. -/
def durationText (ms : UInt64) : String :=
  let n := ms.toNat
  String.ofList <|
    if n < 1000 then Numeral.digits n ++ ['m', 's']
    else if n < 60000 then Decimal.fixed 1 (ms.toFloat / 1000.0) ++ ['s']
    else if n < 3600000 then
      Numeral.digits (n / 60000) ++ 'm' :: ' ' :: Numeral.padded 2 (n % 60000 / 1000) ++ ['s']
    else
      Numeral.digits (n / 3600000) ++ 'h' :: ' ' :: Numeral.padded 2 (n % 3600000 / 60000) ++ ['m']

def rule (c : Char) : String := String.ofList (List.replicate 60 c) ++ "\n"

def counters (r : Report) : String :=
  let s := r.summary
  "  configurations: " ++ toString s.planned ++ " planned, " ++ toString s.completed ++
    " completed, " ++ toString s.incomplete ++ " incomplete\n" ++
  (if 0 < s.resumed ∨ 0 < s.calibrationSkipped then
    "  skipped:        " ++ toString s.resumed ++ " already in " ++ r.settings.output ++ ", " ++
      toString s.calibrationSkipped ++ " without calibration\n"
  else "") ++
  "  repetitions:    " ++ toString s.invocations ++ " run, " ++ toString s.failedRepetitions ++
    " failed, " ++ toString s.timeouts ++ " timed out\n" ++
  "  duration:       " ++ durationText r.durationMs ++ "\n"

def CalibrationEntry.line (e : CalibrationEntry) : String :=
  let delay := String.ofList ((Numeral.digits e.delay.toNat).leftpad 10 ' ') ++ " ns  "
  match e.error, e.center, e.amplitude with
  | none, some center, some amplitude =>
    "  ✓ " ++ delay ++ "center " ++ toString center ++ "  amplitude " ++ toString amplitude ++ "\n"
  | error, _, _ => "  ✗ " ++ delay ++ error.getD "no result" ++ "\n"

def IncompleteEntry.lines (e : IncompleteEntry) : String :=
  "  ✗ " ++ e.configuration ++ "\n      " ++ e.reason ++ "\n"

def titled (title : String) (lines : List String) : String :=
  if lines.isEmpty then "" else "\n" ++ title ++ "\n" ++ rule '-' ++ String.join lines

def human (r : Report) : String :=
  "\nqsweep Results\n" ++ rule '=' ++ "\n" ++ counters r ++
    titled "Calibrations" (r.calibrations.map CalibrationEntry.line) ++
    titled "Incomplete configurations" (r.incomplete.map IncompleteEntry.lines) ++ "\n"

end CalibratedSweep.Report
