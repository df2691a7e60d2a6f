/-!
The exact value of a double: mantissa times a power of two. Every finite double has one form,
with a mantissa below 2^53 and an exponent of at least -1074.
-/

namespace CalibratedSweep.Decimal

structure Binary where
  mantissa : Nat
  exponent : Int
  deriving DecidableEq, Repr

namespace Binary

def scaled (b : Binary) (scale : Nat) : Nat × Nat :=
  match b.exponent with
  | .ofNat e => (b.mantissa * Nat.pow 2 e * scale, 1)
  | .negSucc e => (b.mantissa * scale, Nat.pow 2 (e + 1))

end Binary

/-- Which of the two neighbours an exact half goes to. -/
inductive Tie where
  | toEven
  | up
  deriving DecidableEq, Repr

def roundDiv (tie : Tie) (num den : Nat) : Nat :=
  let floor := num / den
  let twice := 2 * (num % den)
  if twice < den then floor
  else if den < twice then floor + 1
  else
    match tie with
    | .up => floor + 1
    | .toEven => floor + floor % 2

def signBit (x : Float) : Bool := x.toBits >>> 63 == 1

/-- The least mantissa with all its bits, 2^52. -/
def leastMantissa : Nat := 0x10000000000000

def fractionBits (x : Float) : Nat := x.toBits.toNat % leastMantissa

def exponentBits (x : Float) : Nat := x.toBits.toNat / leastMantissa % 2048

/-- The size of `x`; nothing for an infinity or a NaN. -/
def magnitude? (x : Float) : Option Binary :=
  if exponentBits x = 2047 then none
  else if exponentBits x = 0 then some ⟨fractionBits x, -1074⟩
  else some ⟨fractionBits x + leastMantissa, (exponentBits x : Int) - 1075⟩

end CalibratedSweep.Decimal
