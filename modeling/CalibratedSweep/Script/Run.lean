import CalibratedSweep.Script.Builtin
import CalibratedSweep.Script.Reader
/-!
Runs scripts. Nothing happens after the deadline; a script that is still running then has no end.
-/

namespace CalibratedSweep

namespace Script

def call (line : Nat) (fields : List String) (sh : Shell) : Shell :=
  match fields with
  | [] => sh.withStatus 0
  | "exec" :: name :: arguments =>
    match builtin? name with
    | some f =>
      let sh := f arguments sh
      if sh.isOver then sh else sh.finish (.exited sh.status)
    | none => (sh.complain line ("exec: " ++ name ++ ": not found")).finish (.exited 127)
  | name :: arguments =>
    match builtin? name with
    | some f => f arguments sh
    | none => (sh.complain line (name ++ ": not found")).withStatus 127

def redirected (line : Nat) (rs : List Redirection) (f : Shell → Shell) (sh : Shell) : Shell :=
  match sh.redirectAll rs with
  | .ok inner => (f inner).restoreStreams sh
  | .error message => (sh.complain line message).withStatus 2

def redirectedFromNow (line : Nat) (rs : List Redirection) (sh : Shell) : Shell :=
  match sh.redirectAll rs with
  | .ok sh => sh.withStatus 0
  | .error message => (sh.complain line message).finish (.exited 2)

def rejoin (before after : Shell) : Shell :=
  let status := match after.ended with
    | some (.exited n) => n
    | some (.signalled n) => 128 + n
    | none => after.status
  { after with
    status, ended := none, values := before.values, arguments := before.arguments }

/-- The state beside a command that runs in the background and takes none of the script's time. -/
def beside (before after : Shell) : Shell :=
  { (rejoin before after).restoreStreams before with status := 0, clock := before.clock }

def run : Script → Shell → Shell
  | nothing, sh => sh
  | command line words rs, sh =>
    if sh.isOver then sh
    else
      match words.flatMap sh.fields with
      | ["exec"] => redirectedFromNow line rs sh
      | fields => redirected line rs (call line fields) sh
  | assign name value, sh =>
    if sh.isOver then sh
    else { sh with values := (name, sh.whole value) :: sh.values, status := 0 }
  | sequence a b, sh =>
    let sh := a.run sh
    if sh.isOver then sh else b.run sh
  | both a b, sh =>
    let sh := a.run sh
    if sh.isOver || sh.status != 0 then sh else b.run sh
  | either a b, sh =>
    let sh := a.run sh
    if sh.isOver || sh.status == 0 then sh else b.run sh
  | negated a, sh =>
    let sh := a.run sh
    if sh.isOver then sh else sh.withStatus (if sh.status = 0 then 1 else 0)
  | group a rs, sh => if sh.isOver then sh else redirected 1 rs a.run sh
  | apart a rs, sh => if sh.isOver then sh else rejoin sh (redirected 1 rs a.run sh)
  | background a, sh => if sh.isOver then sh else beside sh (a.run { sh with input := [] })
  | choose condition yes no, sh =>
    let sh := condition.run sh
    if sh.isOver then sh
    else if sh.status = 0 then yes.run sh
    else no.run (sh.withStatus 0)
  | arm subject patterns body rest, sh =>
    if sh.isOver then sh
    else if patterns.any fun p => Shell.fits (sh.patternChars p) (sh.whole subject).toList then
      body.run (sh.withStatus 0)
    else rest.run sh

def start (files : Files) (directory : Place) (name : String) (arguments : List String)
    (bound : Duration) : Shell where
  files := files
  directory := directory
  name := name
  arguments := arguments
  values := []
  status := 0
  clock := ⟨0⟩
  deadline := deadlineFrom ⟨0⟩ bound
  out := .stdout
  err := .stderr
  input := []
  stdout := []
  stderr := []
  ended := none

def Shell.exitStatus (sh : Shell) : ExitStatus := sh.ended.getD (.exited sh.status)

def Shell.child (sh : Shell) : Child :=
  if sh.isCut then ⟨⟨0⟩, sh.exitStatus, none, none, none, sh.stdout, sh.stderr⟩
  else .endingAt sh.clock sh.exitStatus sh.stdout sh.stderr

/-- What a supervisor has of it. Only a deadline cuts a shell off, so it ends by itself without one. -/
def Shell.supervised (bound : Duration) (sh : Shell) : Supervised bound :=
  (Supervised.ofChild? bound sh.child).getD
    (.endingAt bound sh.clock sh.exitStatus sh.stdout sh.stderr)

/-- Runs the text of a script; one that cannot be read ends at once. -/
def runText (text : String) (sh : Shell) : Shell :=
  match read? text with
  | some s => s.run sh
  | none => (sh.complain 1 "Syntax error").finish (.exited 2)

end Script

end CalibratedSweep
