import CalibratedSweep.Plan.Basic
/-!
The plan as a printed tree: a branch for each queue that has configurations, with their other axes
below it, and a closing line that counts. The tree is a list of lines; read from top to bottom,
with each entry under the heading above it, the lines give the configurations back.
-/

namespace CalibratedSweep

inductive PlanLine where
  | heading (queue : String)
  | entry (threads : ThreadPair) (capacity delay : UInt64)
  deriving DecidableEq, Repr

def PlanLine.text : PlanLine → String
  | .heading queue => "├── queue: " ++ queue
  | .entry threads capacity delay =>
    "│   ├── " ++ threads.text ++ " size:" ++ toString capacity ++ " delay:" ++ toString delay ++ "ns"

namespace PlanTree

def entry (c : Configuration) : PlanLine := .entry c.threads c.capacity c.delay

/-- The entries of a queue, and the position that the queue has among the queues of the sweep. -/
structure Branch where
  position : Nat
  queue : String
  entries : List PlanLine
  deriving DecidableEq, Repr

def Branch.lines (b : Branch) : List PlanLine := .heading b.queue :: b.entries

/--
Adds an entry to the branch at a position. Branches stand in the order of their positions; where there
is none yet, one begins with the entry, under the name of its queue.
-/
def insert (position : Nat) (queue : String) (e : PlanLine) : List Branch → List Branch
  | [] => [⟨position, queue, [e]⟩]
  | b :: rest =>
    if position < b.position then ⟨position, queue, [e]⟩ :: b :: rest
    else if position = b.position then { b with entries := b.entries ++ [e] } :: rest
    else b :: insert position queue e rest

/-- The position of a queue; a queue that is not listed goes to the first. -/
def position (queues : List String) (queue : String) : Nat := (queues.idxOf? queue).getD 0

def grow (queues : List String) (branches : List Branch) (c : Configuration) : List Branch :=
  insert (position queues c.queue) c.queue (entry c) branches

def branches (queues : List String) (p : Plan) : List Branch :=
  p.configurations.foldl (grow queues) []

def lines (queues : List String) (p : Plan) : List PlanLine :=
  (branches queues p).flatMap Branch.lines

/-- The configurations that lines show, under the heading that came last. -/
def configurationsUnder (ops : UInt64) (queue : String) : List PlanLine → List Configuration
  | [] => []
  | .heading queue :: rest => configurationsUnder ops queue rest
  | .entry threads capacity delay :: rest =>
    ⟨queue, threads, capacity, ops, delay⟩ :: configurationsUnder ops queue rest

def configurations (ops : UInt64) (lines : List PlanLine) : List Configuration :=
  configurationsUnder ops "" lines

def closing (p : Plan) (ops : UInt64) : String :=
  toString p.configurations.length ++ " configurations x " ++ toString p.runs ++ " runs = " ++
    toString p.totalRuns ++ " worker invocations (" ++ toString ops ++ " ops each)."

def text (m : Matrix) : String :=
  let p := m.plan
  "qsweep Plan:\n" ++ String.join ((lines m.queues p).map fun l => l.text ++ "\n") ++
    closing p m.ops ++ "\n"

end PlanTree

end CalibratedSweep
