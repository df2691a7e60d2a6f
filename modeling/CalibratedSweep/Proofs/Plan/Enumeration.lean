import CalibratedSweep.Plan.Basic
import Mathlib.Algebra.Group.Nat.Defs
/-!
The plan numbers its configurations in a mixed radix: the place of a configuration has its queue as the
first digit and its delay as the last one.
-/

namespace CalibratedSweep

section Lists

variable {α β : Type} {f : α → List β} {k : Nat} {xs : List α}

end Lists

namespace Matrix

variable (m : Matrix) (queue : String) (threads : ThreadPair) (capacity : UInt64)

def ofCapacity : List Configuration :=
  m.delays.map fun delay => ⟨queue, threads, capacity, m.ops, delay⟩

def ofThreads : List Configuration := m.sizes.flatMap (m.ofCapacity queue threads)

def ofQueue : List Configuration := m.threadPairs.flatMap (m.ofThreads queue)

theorem plan_eq : m.plan.configurations = m.queues.flatMap m.ofQueue := rfl

def wide : Matrix where
  queues := List.replicate 2048 "A"
  threadPairs := List.replicate 2048 ⟨1, 1⟩
  sizes := List.replicate 2048 64
  delays := List.replicate 2048 0
  ops := 1000
  runs := 1048576

end Matrix

end CalibratedSweep
