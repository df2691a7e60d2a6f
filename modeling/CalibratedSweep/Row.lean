import CalibratedSweep.Configuration
import CalibratedSweep.Outcome
import CalibratedSweep.Scores
/-!
Rows and their keys. The outcomes of a configuration become a row only if every requested run
succeeded; otherwise `Incomplete` counts what happened and keeps the first problem.
-/

namespace CalibratedSweep

structure Row where
  configuration : Configuration
  score : Float
  scoreError : Float
  runs : UInt32

/-- What identifies a row: every column but the scores. The delay may be left out. -/
structure RowKey where
  queue : String
  producers : UInt32
  consumers : UInt32
  size : UInt64
  items : UInt64
  runs : UInt32
  delay : Option UInt64
  deriving DecidableEq, Repr

namespace RowKey

def ofConfiguration (c : Configuration) (runs : UInt32) : RowKey :=
  ⟨c.queue, c.threads.producers, c.threads.consumers, c.capacity, c.ops, runs, some c.delay⟩

def withoutDelay (k : RowKey) : RowKey := { k with delay := none }

def compareDelay : Option UInt64 → Option UInt64 → Ordering
  | none, none => .eq
  | none, some _ => .lt
  | some _, none => .gt
  | some a, some b => compare a b

/-- Keys are ordered column by column, a missing delay first. -/
def compareTo (a b : RowKey) : Ordering :=
  (compareOfLessAndEq a.queue b.queue).then <|
  (compare a.producers b.producers).then <|
  (compare a.consumers b.consumers).then <|
  (compare a.size b.size).then <|
  (compare a.items b.items).then <|
  (compare a.runs b.runs).then <|
  compareDelay a.delay b.delay

def sorted (keys : List RowKey) : List RowKey :=
  (keys.mergeSort fun a b => (compareTo a b).isLE).eraseReps

end RowKey

def Row.key (r : Row) : RowKey := .ofConfiguration r.configuration r.runs

structure Incomplete where
  configuration : Configuration
  expected : UInt32
  successes : Nat
  failures : Nat
  timeouts : Nat
  firstProblem : Option String
  deriving DecidableEq, Repr

namespace Incomplete

def share (i : Incomplete) : String :=
  toString i.successes ++ "/" ++ toString i.expected ++ " repetitions succeeded"

def text (i : Incomplete) : String :=
  let counts := i.configuration.text ++ ": " ++ i.share ++ " (" ++ toString i.failures ++
    " failed, " ++ toString i.timeouts ++ " timed out)"
  match i.firstProblem with
  | some p => counts ++ ", first problem: " ++ p
  | none => counts

/-- Why there is no row: the first problem, else the count of successes. -/
def reason (i : Incomplete) : String := i.firstProblem.getD i.share

end Incomplete

/-- The first outcome that is no success, described with its place; places count from `place`. -/
def firstProblemFrom (place : Nat) : List Outcome → Option String
  | [] => none
  | o :: rest =>
    if o.isSuccess then firstProblemFrom (place + 1) rest
    else some ("repetition " ++ toString place ++ ": " ++ o.text)

def reduce (c : Configuration) (outcomes : List Outcome) (runs : UInt32) : Except Incomplete Row :=
  let scores := outcomes.filterMap Outcome.score?
  let failures := outcomes.countP Outcome.isFailure
  let timeouts := outcomes.countP Outcome.isTimeout
  if failures = 0 ∧ timeouts = 0 ∧ scores.length = runs.toNat then
    .ok ⟨c, Scores.mean scores, Scores.deviation scores, runs⟩
  else
    .error ⟨c, runs, scores.length, failures, timeouts, firstProblemFrom 1 outcomes⟩

end CalibratedSweep
