import CalibratedSweep.Decimal.Layout
import CalibratedSweep.Decimal.Reader
import CalibratedSweep.Supervision.Child
import CalibratedSweep.Text.Blank
import CalibratedSweep.Text.Lines
import CalibratedSweep.Text.Quoted

namespace CalibratedSweep

inductive ScoreError where
  | missing
  | several (lines : Nat)
  | unreadable (line : String)
  | outOfRange (score : Float)

def ScoreError.message : ScoreError → String
  | .missing => "no score printed"
  | .several n => "expected one score line, got " ++ toString n
  | .unreadable line => "unparsable score " ++ Text.quoted line
  | .outOfRange x => "invalid score " ++ Decimal.scoreText x

namespace Score

def filledLines (text : String) : List (List Char) :=
  ((Text.lines text.toList).map Text.trim).filter fun line => !line.isEmpty

def ofLine (line : List Char) : Except ScoreError Float :=
  match Decimal.read? line with
  | none => .error (.unreadable (String.ofList line))
  | some x => if x.isFinite && 0.0 ≤ x then .ok x else .error (.outOfRange x)

def read (stdout : String) : Except ScoreError Float :=
  match filledLines stdout with
  | [] => .error .missing
  | [line] => ofLine line
  | lines => .error (.several lines.length)

end Score

/-- What a program says about its failure: its last line that is not blank, else how it ended. -/
def ExitStatus.diagnostic (s : ExitStatus) (stderr : String) : String :=
  match (Score.filledLines stderr).getLast? with
  | some line => String.ofList line
  | none =>
    match s with
    | .signalled n => "terminated by signal " ++ toString n
    | .exited _ => "no diagnostic output"

end CalibratedSweep
