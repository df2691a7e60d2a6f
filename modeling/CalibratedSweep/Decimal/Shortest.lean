import CalibratedSweep.Decimal.Binary
/-!
The shortest decimal that reads back as a given double. A decimal reads back when it lies in the
interval of reals that round to the double, whose ends belong to it iff the mantissa is even. For
1, 2, ... 17 digits the two neighbours of the value on that decimal grid are tried; the first grid
with a neighbour in the interval gives the answer, the nearer one if both are in it.
-/

namespace CalibratedSweep.Decimal

structure Scientific where
  coefficient : Nat
  exponent : Int
  deriving DecidableEq, Repr

def digitCount (n : Nat) : Nat := (Nat.toDigits 10 n).length

/-- The `e` with `10 ^ e ≤ num / den < 10 ^ (e + 1)`, for positive `num` and `den`. -/
def decimalExponent (num den : Nat) : Int :=
  if den ≤ num then (digitCount (num / den) : Int) - 1
  else
    let z := digitCount den - digitCount num
    if den ≤ num * Nat.pow 10 z then -(z : Int) else -(z : Int) - 1

/--
Four times a double and its interval of rounding, over a common denominator. The interval is
narrower below a power of two, unless the numbers below are as far apart as those above.
-/
structure Rounding where
  value : Nat
  low : Nat
  high : Nat
  den : Nat
  closed : Bool
  deriving Repr

def Rounding.ofBinary (b : Binary) : Rounding :=
  let below := if b.mantissa = leastMantissa ∧ -1074 < b.exponent then 1 else 2
  let unit := match b.exponent with
    | .ofNat e => (Nat.pow 2 e, 1)
    | .negSucc e => (1, Nat.pow 2 (e + 1))
  { value := 4 * b.mantissa * unit.1
    low := (4 * b.mantissa - below) * unit.1
    high := (4 * b.mantissa + 2) * unit.1
    den := 4 * unit.2
    closed := b.mantissa % 2 == 0 }

/-- Whether `num / den` lies in the interval, where `num` is over the denominator `r.den * scale`. -/
def Rounding.holds (r : Rounding) (num scale : Nat) : Bool :=
  if r.closed then r.low * scale ≤ num && num ≤ r.high * scale
  else r.low * scale < num && num < r.high * scale

/-- The multiple of `10 ^ e` nearest to the value, among its neighbours in the interval. -/
def Rounding.onGrid? (tie : Tie) (r : Rounding) (e : Int) : Option Nat :=
  let step := match e with
    | .ofNat k => (Nat.pow 10 k * r.den, 1)
    | .negSucc k => (r.den, Nat.pow 10 (k + 1))
  let floor := r.value * step.2 / step.1
  let lower := r.holds (floor * step.1) step.2 && 0 < floor
  let upper := r.holds ((floor + 1) * step.1) step.2
  if lower && upper then some (roundDiv tie (r.value * step.2) step.1)
  else if lower then some floor
  else if upper then some (floor + 1)
  else none

/-- Tries grids of `digits`, `digits + 1`, ... digits, at most `more` of them. -/
def Rounding.search (tie : Tie) (r : Rounding) (top : Int) (digits : Nat) : Nat → Scientific
  | 0 => ⟨r.value / r.den, 0⟩
  | more + 1 =>
    let e := top - digits + 1
    match r.onGrid? tie e with
    | some c => ⟨c, e⟩
    | none => Rounding.search tie r top (digits + 1) more

/-- Moves zeros at the end of the coefficient into the exponent, at most `more` of them. -/
def Scientific.strip (s : Scientific) : Nat → Scientific
  | 0 => s
  | more + 1 =>
    if s.coefficient ≠ 0 ∧ s.coefficient % 10 = 0 then
      Scientific.strip ⟨s.coefficient / 10, s.exponent + 1⟩ more
    else s

def shortest (tie : Tie) (b : Binary) : Scientific :=
  let r := Rounding.ofBinary b
  (r.search tie (decimalExponent r.value r.den) 1 17).strip 20

end CalibratedSweep.Decimal
