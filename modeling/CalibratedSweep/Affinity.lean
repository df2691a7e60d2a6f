import CalibratedSweep.Files.Basic
import CalibratedSweep.Text.Blank
import CalibratedSweep.Text.Lines
import CalibratedSweep.Text.Numeral
import CalibratedSweep.Text.Quoted
/-!
Lists of processors to pin workers to, one number a line with the preferred ones first. Blank
lines are skipped but counted.
-/

namespace CalibratedSweep

structure Affinity where
  cpus : List UInt64
  deriving DecidableEq, Repr

namespace Affinity

/-- The line, counted from 1, that is neither blank nor a number. -/
structure ReadError where
  line : Nat
  text : String
  deriving DecidableEq, Repr

def ReadError.message (e : ReadError) : String :=
  "line " ++ toString e.line ++ ": invalid CPU id " ++ Text.quoted e.text

/-- Reads lines that are counted from `number`. -/
def readLines (number : Nat) : List (List Char) → Except ReadError (List UInt64)
  | [] => .ok []
  | line :: rest =>
    let line := Text.trim line
    if line.isEmpty then readLines (number + 1) rest
    else
      match Numeral.uint64? line with
      | none => .error ⟨number, String.ofList line⟩
      | some cpu => (readLines (number + 1) rest).map (cpu :: ·)

def read (text : String) : Except ReadError Affinity :=
  (readLines 1 (Text.lines text.toList)).map Affinity.mk

inductive LoadError where
  | unreadable (error : OsError)
  | bad (error : ReadError)
  deriving DecidableEq, Repr

def LoadError.message : LoadError → String
  | .unreadable e => e.message
  | .bad e => e.message

def load (f : Files) (base : Place) (path : String) : Except LoadError Affinity :=
  match f.readText base path with
  | .error e => .error (.unreadable e)
  | .ok text => (read text).mapError .bad

def select (a : Affinity) (count : Nat) : List UInt64 := a.cpus.take count

end Affinity

end CalibratedSweep
