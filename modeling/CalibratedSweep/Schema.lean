import CalibratedSweep.Row
import CalibratedSweep.Text.Blank
import CalibratedSweep.Text.Quoted

namespace CalibratedSweep

inductive Schema where
  | withDelay
  | withoutDelay
  deriving DecidableEq, Repr

namespace Schema

def neighboursDiffer : List UInt64 → Bool
  | a :: b :: rest => a != b || neighboursDiffer (b :: rest)
  | _ => false

/--
The layout for a sweep over `delays`: the column is left out only when no delay is calibrated and
all of them are the same, since rows of different delays must stay apart.
-/
def forDelays (delays : List UInt64) (minDelay : UInt64) : Schema :=
  if neighboursDiffer delays || delays.any (minDelay ≤ ·) then .withDelay else .withoutDelay

def hasDelay : Schema → Bool
  | .withDelay => true
  | .withoutDelay => false

def keyHeader : List String := ["Queue", "Producers", "Consumers", "Size", "Items", "Runs"]

def header : Schema → List String
  | .withDelay => keyHeader ++ ["Delay", "Score", "Score Error"]
  | .withoutDelay => keyHeader ++ ["Score", "Score Error"]

def record (s : Schema) (r : Row) : List String :=
  let c := r.configuration
  [c.queue, toString c.threads.producers, toString c.threads.consumers, toString c.capacity,
    toString c.ops, toString r.runs] ++
  (if s.hasDelay then [toString c.delay] else []) ++
  [Decimal.scoreText r.score, Decimal.scoreText r.scoreError]

def keyOf (s : Schema) (k : RowKey) : RowKey := if s.hasDelay then k else k.withoutDelay

inductive KeyError where
  | wrongCount (expected found : Nat)
  | badColumn (column value : String)
  deriving DecidableEq, Repr

def KeyError.message : KeyError → String
  | .wrongCount expected found =>
    "expected " ++ toString expected ++ " fields, found " ++ toString found
  | .badColumn column value => "column " ++ column ++ ": invalid value " ++ Text.quoted value

def narrow (column value : String) : Except KeyError UInt32 :=
  match Numeral.uint32? (Text.trim value.toList) with
  | some n => .ok n
  | none => .error (.badColumn column value)

def wide (column value : String) : Except KeyError UInt64 :=
  match Numeral.uint64? (Text.trim value.toList) with
  | some n => .ok n
  | none => .error (.badColumn column value)

def readKey (delay : Option UInt64) (queue producers consumers size items runs : String) :
    Except KeyError RowKey := do
  let producers ← narrow "Producers" producers
  let consumers ← narrow "Consumers" consumers
  let size ← wide "Size" size
  let items ← wide "Items" items
  let runs ← narrow "Runs" runs
  return ⟨queue, producers, consumers, size, items, runs, delay⟩

/-- The key in the fields of a stored record. The delay is looked at first. -/
def parseKey (s : Schema) (fields : List String) : Except KeyError RowKey :=
  match s, fields with
  | .withDelay, [queue, producers, consumers, size, items, runs, delay, _, _] => do
    let delay ← wide "Delay" delay
    readKey (some delay) queue producers consumers size items runs
  | .withoutDelay, [queue, producers, consumers, size, items, runs, _, _] =>
    readKey none queue producers consumers size items runs
  | s, fields => .error (.wrongCount s.header.length fields.length)

end Schema

end CalibratedSweep
