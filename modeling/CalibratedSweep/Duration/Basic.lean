import CalibratedSweep.Decimal.Layout
/-!
Lengths of time in whole nanoseconds, and their shortest text: the largest unit of `s`, `ms`, `µs`
and `ns` that is at most the length, with as many decimals as the length needs.
-/

namespace CalibratedSweep

structure Duration where
  nanos : Nat
  deriving DecidableEq, Repr

namespace Duration

instance : LE Duration := ⟨fun a b => a.nanos ≤ b.nanos⟩

instance (a b : Duration) : Decidable (a ≤ b) := inferInstanceAs (Decidable (a.nanos ≤ b.nanos))

def ofSeconds (s : Nat) : Duration := ⟨s * 1000000000⟩

/-- The longest length that is told apart: one nanosecond short of 2^64 seconds. -/
def longest : Duration := ⟨UInt64.size * 1000000000 - 1⟩

def max (a b : Duration) : Duration := if a ≤ b then b else a

def plus (a b : Duration) : Duration := ⟨a.nanos + b.nanos⟩

def millis (d : Duration) : Nat := d.nanos / 1000000

/--
The length of `x` seconds to the nearest nanosecond, an exact half to the even one. Nothing for a
NaN, a negative number and what is 2^64 seconds or more.
-/
def ofFloatSeconds? (x : Float) : Option Duration :=
  if x < 0.0 then none
  else
    match Decimal.magnitude? x with
    | none => none
    | some b =>
      let whole := b.scaled 1
      if UInt64.size ≤ whole.1 / whole.2 then none
      else
        let n := b.scaled 1000000000
        some ⟨Decimal.roundDiv .toEven n.1 n.2⟩

/-- `n` counted in units of ten to the power `places`, without zeros at the end of the fraction. -/
def inUnits (places n : Nat) : List Char :=
  let fraction := Numeral.padded places (n % Nat.pow 10 places)
  let kept := (fraction.reverse.dropWhile (· == '0')).reverse
  Numeral.digits (n / Nat.pow 10 places) ++ if kept.isEmpty then [] else '.' :: kept

def chars (d : Duration) : List Char :=
  if 1000000000 ≤ d.nanos then inUnits 9 d.nanos ++ ['s']
  else if 1000000 ≤ d.nanos then inUnits 6 d.nanos ++ ['m', 's']
  else if 1000 ≤ d.nanos then inUnits 3 d.nanos ++ ['µ', 's']
  else inUnits 0 d.nanos ++ ['n', 's']

def text (d : Duration) : String := String.ofList d.chars

end Duration

end CalibratedSweep
