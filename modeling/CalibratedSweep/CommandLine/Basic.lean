import CalibratedSweep.Text.Numeral

namespace CalibratedSweep.CommandLine

inductive Action where
  | run
  | plan
  | validate
  | calibrate
  | init
  deriving DecidableEq, Repr

namespace Action

def name : Action → String
  | .run => "run"
  | .plan => "plan"
  | .validate => "validate"
  | .calibrate => "calibrate"
  | .init => "init"

def all : List Action := [.run, .plan, .validate, .calibrate, .init]

def ofName? (s : String) : Option Action := all.find? fun a => a.name == s

end Action

inductive UsageError where
  | helpAsked
  | versionAsked
  | unknownArgument
  | unknownCommand
  | conflict
  | missingValue
  | badNumber
  | surplusValue
  deriving DecidableEq, Repr

def UsageError.message : UsageError → String
  | .helpAsked => "usage: qsweep [run | plan | validate | calibrate | init] [options]"
  | .versionAsked => "qsweep 0.1.0"
  | .unknownArgument => "unexpected argument"
  | .unknownCommand => "unrecognized subcommand"
  | .conflict => "an argument cannot be used twice, nor quiet with verbose"
  | .missingValue => "a value is required"
  | .badNumber => "a number is invalid or out of range"
  | .surplusValue => "a switch takes no value"

inductive Setting where
  | config
  | filter
  | worker
  | probe
  | runs
  | ops
  | output
  | report
  deriving DecidableEq, Repr

inductive Switch where
  | resume
  | verbose
  | quiet
  deriving DecidableEq, Repr

structure Arguments where
  config : Option String
  filter : Option String
  worker : Option String
  probe : Option String
  runs : Option UInt32
  ops : Option UInt64
  output : Option String
  report : Option String
  resume : Bool
  verbose : Bool
  quiet : Bool
  deriving DecidableEq, Repr

namespace Arguments

def empty : Arguments :=
  ⟨none, none, none, none, none, none, none, none, false, false, false⟩

def fill {α : Type} (value : Except UsageError α) : Option α → Except UsageError (Option α)
  | some _ => .error .conflict
  | none => value.map some

def path (s : String) : Except UsageError String :=
  if s.isEmpty then .error .missingValue else .ok s

def number {α : Type} : Option α → Except UsageError α
  | some n => .ok n
  | none => .error .badNumber

/-- A number with a sign, if it fits. -/
def runs? (s : String) : Option UInt32 :=
  match Numeral.signed64? s.toList with
  | some n => if 0 ≤ n ∧ n < UInt32.size then some (UInt32.ofNat n.toNat) else none
  | none => none

/-- Sets an option, at most once. -/
def set (a : Arguments) (s : Setting) (value : String) : Except UsageError Arguments :=
  match s with
  | .config => (fill (path value) a.config).map fun v => { a with config := v }
  | .filter => (fill (.ok value) a.filter).map fun v => { a with filter := v }
  | .worker => (fill (path value) a.worker).map fun v => { a with worker := v }
  | .probe => (fill (path value) a.probe).map fun v => { a with probe := v }
  | .runs => (fill (number (runs? value)) a.runs).map fun v => { a with runs := v }
  | .ops => (fill (number (Numeral.uint64? value.toList)) a.ops).map fun v => { a with ops := v }
  | .output => (fill (path value) a.output).map fun v => { a with output := v }
  | .report => (fill (path value) a.report).map fun v => { a with report := v }

def turnOn (a : Arguments) (s : Switch) : Except UsageError Arguments :=
  match s with
  | .resume => if a.resume then .error .conflict else .ok { a with resume := true }
  | .verbose => if a.verbose then .error .conflict else .ok { a with verbose := true }
  | .quiet => if a.quiet then .error .conflict else .ok { a with quiet := true }

/-- What is set behind the action goes before what is set in front of it. -/
def withDefaults (inner outer : Arguments) : Arguments where
  config := inner.config.or outer.config
  filter := inner.filter.or outer.filter
  worker := inner.worker.or outer.worker
  probe := inner.probe.or outer.probe
  runs := inner.runs.or outer.runs
  ops := inner.ops.or outer.ops
  output := inner.output.or outer.output
  report := inner.report.or outer.report
  resume := inner.resume || outer.resume
  verbose := inner.verbose || outer.verbose
  quiet := inner.quiet || outer.quiet

end Arguments

end CalibratedSweep.CommandLine
