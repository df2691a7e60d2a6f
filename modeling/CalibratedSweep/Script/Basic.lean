import CalibratedSweep.Script.Token

namespace CalibratedSweep

namespace Script

inductive Target where
  | file (path : Word) (append : Bool)
  | input (path : Word)
  /-- Where another stream goes at this moment. -/
  | stream (n : Nat)
  deriving DecidableEq, Repr

structure Redirection where
  stream : Nat
  target : Target
  deriving DecidableEq, Repr

end Script

inductive Script where
  | nothing
  | command (line : Nat) (words : List Script.Word) (redirections : List Script.Redirection)
  | assign (name : String) (value : Script.Word)
  | sequence (a b : Script)
  | both (a b : Script)
  | either (a b : Script)
  | negated (a : Script)
  | group (a : Script) (redirections : List Script.Redirection)
  /-- Commands whose end and whose variables are their own. -/
  | apart (a : Script) (redirections : List Script.Redirection)
  | background (a : Script)
  | choose (condition yes no : Script)
  | arm (subject : Script.Word) (patterns : List Script.Word) (body rest : Script)
  deriving DecidableEq, Repr

end CalibratedSweep
