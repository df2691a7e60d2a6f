import CalibratedSweep.Decimal.Shortest
import CalibratedSweep.Text.Numeral
/-!
Written forms of a double. A `Layout` says which exponents are written out in full, whether a
whole number keeps a fraction, and how ties between two shortest decimals go; digits come from
`shortest`. `fixed` writes a given number of places instead.
-/

namespace CalibratedSweep.Decimal

structure Layout where
  /-- Least and greatest exponent of the leading digit that is written without an exponent. -/
  positional : Option (Int × Int)
  /-- What follows the digits of a whole number. -/
  wholeEnd : List Char
  tie : Tie

/-- Scores are written without an exponent, and whole ones without a fraction. -/
def plain : Layout := ⟨none, [], .up⟩

/-- A report writes exponents below 1e-5 and from 1e16 on, and `.0` after a whole number. -/
def report : Layout := ⟨some (-5, 15), ['.', '0'], .toEven⟩

def zeros (n : Nat) : List Char := List.replicate n '0'

def Scientific.positional (wholeEnd : List Char) (s : Scientific) : List Char :=
  let ds := Numeral.digits s.coefficient
  match s.exponent with
  | .ofNat k => ds ++ zeros k ++ wholeEnd
  | .negSucc k =>
    let places := k + 1
    if places < ds.length then ds.take (ds.length - places) ++ '.' :: ds.drop (ds.length - places)
    else ['0', '.'] ++ zeros (places - ds.length) ++ ds

def signed : Int → List Char
  | .ofNat n => '+' :: Numeral.digits n
  | .negSucc n => '-' :: Numeral.digits (n + 1)

def Scientific.leading (s : Scientific) : Int := s.exponent + (digitCount s.coefficient : Int) - 1

/-- One digit, the others after a point, and the exponent with its sign after `e`. -/
def Scientific.withExponent (s : Scientific) : List Char :=
  let fraction := match Numeral.digits s.coefficient with
    | [] => []
    | [d] => [d]
    | d :: ds => d :: '.' :: ds
  fraction ++ 'e' :: signed s.leading

def Layout.digits (l : Layout) (b : Binary) : List Char :=
  if b.mantissa = 0 then '0' :: l.wholeEnd
  else
    let s := shortest l.tie b
    match l.positional with
    | none => s.positional l.wholeEnd
    | some (low, high) =>
      if low ≤ s.leading ∧ s.leading ≤ high then s.positional l.wholeEnd else s.withExponent

def Layout.text (l : Layout) (x : Float) : List Char :=
  let sign := if signBit x then ['-'] else []
  match magnitude? x with
  | some b => sign ++ l.digits b
  | none => if fractionBits x = 0 then sign ++ ['i', 'n', 'f'] else ['N', 'a', 'N']

def scoreText (x : Float) : String := String.ofList (plain.text x)

/-- `x` rounded to the nearest number of `places` decimals, an exact half to the even neighbour. -/
def fixed (places : Nat) (x : Float) : List Char :=
  let sign := if signBit x then ['-'] else []
  match magnitude? x with
  | none => plain.text x
  | some b =>
    let n := let r := b.scaled (Nat.pow 10 places); roundDiv .toEven r.1 r.2
    let ds := Numeral.padded (places + 1) n
    if places = 0 then sign ++ ds
    else sign ++ ds.take (ds.length - places) ++ '.' :: ds.drop (ds.length - places)

end CalibratedSweep.Decimal
