import CalibratedSweep.Files.Basic
import CalibratedSweep.Supervision.Child
/-!
Starting a program. The program is looked for in the directory that it is to run in; it must be an
executable file that names its interpreter, unless it is pinned to processors: then the shell takes
it as it is. A name without a slash would be looked for among the programs of the system, of which
there are none here.
-/

namespace CalibratedSweep

/-- What to start, with which arguments, where, and on which processors; on any if there are none. -/
structure Command where
  binary : String
  arguments : List String
  workingDir : Option String
  processors : List UInt64
  deriving DecidableEq, Repr

namespace Command

def hasNul (s : String) : Bool := s.contains '\x00'

def isUnfit (c : Command) : Bool :=
  hasNul c.binary || c.arguments.any hasNul || c.workingDir.any hasNul

def directory (c : Command) (f : Files) (base : Place) : Except OsError Place :=
  match c.workingDir with
  | none => .ok base
  | some dir =>
    match f.stat base dir with
    | .error e => .error e
    | .ok (.file _ _) | .ok (.pipe _) => .error .notDirectory
    | .ok .directory => f.locate base dir

def namesInterpreter : Bytes → Bool
  | 0x23 :: 0x21 :: _ => true
  | _ => false

def program (c : Command) (f : Files) (directory : Place) : Except OsError (Place × Bytes) :=
  if !c.binary.contains '/' then .error .notFound
  else
    match f.locate directory c.binary, f.stat directory c.binary with
    | .ok place, .ok (.file content executable) =>
      if !executable then .error .permissionDenied
      else if namesInterpreter content || !c.processors.isEmpty then .ok (place, content)
      else .error .badFormat
    | .ok _, .ok .directory | .ok _, .ok (.pipe _) => .error .permissionDenied
    | .error e, _ => .error e
    | _, .error e => .error e

structure Start where
  place : Place
  content : Bytes
  directory : Place
  deriving DecidableEq, Repr

def resolve (c : Command) (f : Files) (base : Place) : Except OsError Start :=
  if c.isUnfit then .error .nulInArgument
  else
    match c.directory f base with
    | .error e => .error e
    | .ok directory => (c.program f directory).map fun (place, content) => ⟨place, content, directory⟩

end Command

/-- Starts commands for at most a bound; `σ` holds the files and whatever else programs touch. -/
abbrev Launcher (σ : Type) :=
  Command → (bound : Duration) → σ → Except OsError (Supervised bound) × σ

end CalibratedSweep
