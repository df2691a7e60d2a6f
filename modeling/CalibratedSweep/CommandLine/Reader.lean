import CalibratedSweep.CommandLine.Basic
/-!
Reads a command line. Options may stand before the action and after it, and each side is a scope of
its own: within one scope nothing is set twice, and quiet excludes verbose. An option that waits for
its value takes the next word that does not begin with a dash, whatever it is. The value is checked
when the next option comes, or at the end.
-/

namespace CalibratedSweep.CommandLine

inductive Scope where
  /-- The words before the action. -/
  | program
  | action
  deriving DecidableEq, Repr

inductive Name where
  | setting (s : Setting)
  | switch (s : Switch)
  | help
  | version
  deriving DecidableEq, Repr

namespace Name

def all : List (String × Option Char × Name) :=
  [("config", some 'c', .setting .config), ("filter", none, .setting .filter),
    ("worker", none, .setting .worker), ("probe", none, .setting .probe),
    ("runs", some 'n', .setting .runs), ("ops", none, .setting .ops),
    ("output", some 'o', .setting .output), ("report", none, .setting .report),
    ("resume", none, .switch .resume), ("verbose", some 'v', .switch .verbose),
    ("quiet", some 'q', .switch .quiet), ("help", some 'h', .help), ("version", some 'V', .version)]

/-- The version is only asked for before an action. -/
def isKnown (scope : Scope) (n : Name) : Bool := n != .version || scope == .program

def ofLong? (scope : Scope) (s : String) : Option Name :=
  ((all.find? fun (long, _, _) => long == s).map fun (_, _, n) => n).filter (isKnown scope)

def ofShort? (scope : Scope) (c : Char) : Option Name :=
  ((all.find? fun (_, short, _) => short == some c).map fun (_, _, n) => n).filter (isKnown scope)

end Name

inductive Token where
  | plain
  | long (name : String) (value : Option String)
  | letters (cs : List Char)
  /-- Nothing after it is an option. -/
  | dashes
  deriving DecidableEq, Repr

def Token.ofWord (s : String) : Token :=
  match s.toList with
  | ['-', '-'] => .dashes
  | '-' :: '-' :: rest =>
    match rest.dropWhile (· != '=') with
    | _ :: value => .long (String.ofList (rest.takeWhile (· != '='))) (some (String.ofList value))
    | [] => .long (String.ofList rest) none
  | '-' :: c :: rest => .letters (c :: rest)
  | _ => .plain

/-- An option whose value is not checked yet, or not even there. -/
structure Pending where
  setting : Setting
  value : Option String
  deriving DecidableEq, Repr

structure Reading where
  given : Arguments
  pending : Option Pending
  deriving DecidableEq, Repr

namespace Reading

def begin : Reading := ⟨.empty, none⟩

def settle (r : Reading) : Except UsageError Arguments :=
  match r.pending with
  | none => .ok r.given
  | some ⟨_, none⟩ => .error .missingValue
  | some ⟨s, some value⟩ => r.given.set s value

def waits (r : Reading) : Bool := r.pending.any fun p => p.value.isNone

def receive (r : Reading) (value : String) : Reading :=
  { r with pending := r.pending.map fun p => { p with value := some value } }

def turnOn (r : Reading) (s : Switch) : Except UsageError Reading := do
  return ⟨← (← r.settle).turnOn s, none⟩

def setting (r : Reading) (s : Setting) (value : Option String) : Except UsageError Reading := do
  let given ← r.settle
  match value with
  | none => return ⟨given, some ⟨s, none⟩⟩
  | some value => return ⟨← given.set s value, none⟩

/-- Stops with a request that goes before all others. -/
def stop (r : Reading) (e : UsageError) : Except UsageError Reading := do
  let _ ← r.settle
  .error e

def long (scope : Scope) (name : String) (value : Option String) (r : Reading) :
    Except UsageError Reading :=
  match Name.ofLong? scope name, value with
  | none, _ => .error .unknownArgument
  | some (.setting s), value => r.setting s value
  | some _, some _ => .error .surplusValue
  | some (.switch s), none => r.turnOn s
  | some .help, none => r.stop .helpAsked
  | some .version, none => r.stop .versionAsked

/-- Letters after one dash; those after an option are its value. -/
def letters (scope : Scope) : List Char → Reading → Except UsageError Reading
  | [], r => .ok r
  | c :: rest, r =>
    match Name.ofShort? scope c with
    | none => .error .unknownArgument
    | some .help => r.stop .helpAsked
    | some .version => r.stop .versionAsked
    | some (.switch s) =>
      match r.turnOn s with
      | .error e => .error e
      | .ok r => letters scope rest r
    | some (.setting s) =>
      match rest with
      | [] => r.setting s none
      | '=' :: value => r.setting s (some (String.ofList value))
      | value => r.setting s (some (String.ofList value))

def finish (r : Reading) : Except UsageError Arguments := do
  let given ← r.settle
  if given.quiet && given.verbose then .error .conflict else return given

end Reading

def isCommand (s : String) : Bool := s == "help" || (Action.ofName? s).isSome

/-- A plain word that is no value and no action. -/
def stray : Scope → UsageError
  | .program => .unknownCommand
  | .action => .unknownArgument

def strayAfterDashes (scope : Scope) (s : String) : UsageError :=
  if isCommand s then .unknownArgument else stray scope

def helpAbout : List String → UsageError
  | [] => .helpAsked
  | [s] => if isCommand s then .helpAsked else .unknownCommand
  | _ => .unknownCommand

/-- Reads a scope up to its end or to the action, which leaves the words after it. -/
def scan (scope : Scope) : List String → Reading →
    Except UsageError (Reading × Option (Action × List String))
  | [], r => .ok (r, none)
  | s :: rest, r =>
    match Token.ofWord s with
    | .dashes =>
      match rest with
      | [] => .ok (r, none)
      | t :: _ => .error (strayAfterDashes scope t)
    | .long name value =>
      match r.long scope name value with
      | .error e => .error e
      | .ok r => scan scope rest r
    | .letters cs =>
      match r.letters scope cs with
      | .error e => .error e
      | .ok r => scan scope rest r
    | .plain =>
      if r.waits then scan scope rest (r.receive s)
      else if scope = .action then .error (stray scope)
      else
        match Action.ofName? s with
        | some a => .ok (r, some (a, rest))
        | none => .error (if s = "help" then helpAbout rest else stray scope)

/-- What a command line asks for; without an action, to run the sweep. -/
def read (words : List String) : Except UsageError (Action × Arguments) := do
  let (outer, found) ← scan .program words .begin
  match found with
  | none => return (.run, ← outer.finish)
  | some (action, rest) =>
    let (inner, _) ← scan .action rest .begin
    let inner ← inner.finish
    return (action, inner.withDefaults (← outer.finish))

end CalibratedSweep.CommandLine
