import CalibratedSweep.Duration.Basic
/-!
How long one run may take: `ops` operations that are delayed twice each, times an allowance for
scheduling, but never less than a floor. Bounds are kept per pair of operations and delay.
-/

namespace CalibratedSweep.TimeBound

structure Policy where
  floor : Duration
  scale : Float

def Policy.standard : Policy := ⟨.ofSeconds 120, 1.5⟩

def Policy.seconds (p : Policy) (ops delay : UInt64) : Float :=
  ops.toFloat * 2.0 * (delay.toFloat / 1000000000.0) * p.scale

/-- The bound of a run; the longest duration when the product is no duration. -/
def Policy.bound (p : Policy) (ops delay : UInt64) : Duration :=
  ((Duration.ofFloatSeconds? (p.seconds ops delay)).getD .longest).max p.floor

structure Table where
  policy : Policy
  bounds : List ((UInt64 × UInt64) × Duration)

namespace Table

def empty (p : Policy) : Table := ⟨p, []⟩

def bound (t : Table) (ops delay : UInt64) : Duration × Table :=
  match t.bounds.lookup (ops, delay) with
  | some d => (d, t)
  | none =>
    let d := t.policy.bound ops delay
    (d, { t with bounds := ((ops, delay), d) :: t.bounds })

end Table

end CalibratedSweep.TimeBound
