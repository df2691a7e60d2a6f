import CalibratedSweep.Row

namespace CalibratedSweep

structure Summary where
  planned : Nat
  completed : Nat
  incomplete : Nat
  resumed : Nat
  calibrationSkipped : Nat
  invocations : Nat
  failedRepetitions : Nat
  timeouts : Nat
  deriving DecidableEq, Repr

namespace Summary

def start (planned : Nat) : Summary := ⟨planned, 0, 0, 0, 0, 0, 0, 0⟩

def allComplete (s : Summary) : Bool := s.incomplete == 0 && s.calibrationSkipped == 0

def countRun (s : Summary) (o : Outcome) : Summary :=
  { s with
    invocations := s.invocations + 1
    failedRepetitions := s.failedRepetitions + if o.isFailure then 1 else 0
    timeouts := s.timeouts + if o.isTimeout then 1 else 0 }

end Summary

end CalibratedSweep
