import CalibratedSweep.Configuration
/-!
The plan of a sweep: every combination of queue, thread pair, capacity and delay, with the queue
outermost and the delay innermost, each axis in its own order.
-/

namespace CalibratedSweep

inductive ThreadShape where
  | balanced
  | manyToOne
  | oneToMany
  | oneToOne
  deriving DecidableEq, Repr

namespace ThreadShape

def name : ThreadShape → String
  | .balanced => "balanced"
  | .manyToOne => "many-to-one"
  | .oneToMany => "one-to-many"
  | .oneToOne => "one-to-one"

def ofName? : String → Option ThreadShape
  | "balanced" => some .balanced
  | "many-to-one" => some .manyToOne
  | "one-to-many" => some .oneToMany
  | "one-to-one" => some .oneToOne
  | _ => none

/-- The pairs of a shape. `oneToOne` is one pair whatever the counts. -/
def pairs (counts : List UInt32) : ThreadShape → List ThreadPair
  | .balanced => counts.map fun t => ⟨t, t⟩
  | .manyToOne => counts.map fun t => ⟨t, 1⟩
  | .oneToMany => counts.map fun t => ⟨1, t⟩
  | .oneToOne => [⟨1, 1⟩]

end ThreadShape

/-- The items that are not among `seen`, each at its first place only. -/
def firstsAfter {α : Type} [DecidableEq α] (seen : List α) : List α → List α
  | [] => []
  | x :: rest => if x ∈ seen then firstsAfter seen rest else x :: firstsAfter (x :: seen) rest

def firsts {α : Type} [DecidableEq α] (xs : List α) : List α := firstsAfter [] xs

def threadPairs (explicit : List ThreadPair) (shapes : List ThreadShape) (counts : List UInt32) :
    List ThreadPair :=
  firsts (explicit ++ shapes.flatMap (ThreadShape.pairs counts))

def selectQueues (keep : String → Bool) (queues : List String) : List String :=
  firsts (queues.filter keep)

structure Matrix where
  queues : List String
  threadPairs : List ThreadPair
  sizes : List UInt64
  delays : List UInt64
  ops : UInt64
  runs : UInt32
  deriving DecidableEq, Repr

structure Plan where
  configurations : List Configuration
  runs : UInt32
  deriving DecidableEq, Repr

namespace Plan

/-- Runs that a whole sweep asks for. The product is taken in 64 bits and may wrap around. -/
def totalRuns (p : Plan) : UInt64 := UInt64.ofNat p.configurations.length * p.runs.toUInt64

theorem toNat_totalRuns (p : Plan) :
    p.totalRuns.toNat = p.configurations.length * p.runs.toNat % UInt64.size := by
  simp [totalRuns, UInt64.size]

end Plan

def Matrix.plan (m : Matrix) : Plan where
  configurations :=
    m.queues.flatMap fun queue =>
      m.threadPairs.flatMap fun threads =>
        m.sizes.flatMap fun capacity =>
          m.delays.map fun delay => ⟨queue, threads, capacity, m.ops, delay⟩
  runs := m.runs

end CalibratedSweep
