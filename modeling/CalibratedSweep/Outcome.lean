import CalibratedSweep.Duration.Basic

namespace CalibratedSweep

/-- The end of one measured run. A failure has an exit code when the worker exited by itself. -/
inductive Outcome where
  | success (score : Float)
  | failure (code : Option Int) (reason : String)
  | timeout (bound : Duration)

namespace Outcome

def score? : Outcome → Option Float
  | .success s => some s
  | _ => none

def isSuccess : Outcome → Bool
  | .success _ => true
  | _ => false

def isFailure : Outcome → Bool
  | .failure _ _ => true
  | _ => false

def isTimeout : Outcome → Bool
  | .timeout _ => true
  | _ => false

def text : Outcome → String
  | .success s => "score " ++ Decimal.scoreText s
  | .failure (some c) reason => "exit code " ++ toString c ++ ": " ++ reason
  | .failure none reason => "failed: " ++ reason
  | .timeout bound => "timed out after " ++ bound.text

end Outcome

structure Rejection where
  code : Option Int
  detail : String
  deriving DecidableEq, Repr

def Rejection.text (r : Rejection) : String :=
  match r.code with
  | some c => "exit code " ++ toString c ++ ": " ++ r.detail
  | none => r.detail

end CalibratedSweep
