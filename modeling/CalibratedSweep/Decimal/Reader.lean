import CalibratedSweep.Text.Numeral
/-!
Decimal text read as a double: an optional sign, then digits with an optional point and an optional
exponent, or one of the words `inf`, `infinity` and `nan` in any case. The value is rounded to the
nearest double.
-/

namespace CalibratedSweep.Decimal

structure Parsed where
  coefficient : Nat
  exponent : Int
  deriving DecidableEq, Repr

def isDigit (c : Char) : Bool := '0' ≤ c && c ≤ '9'

def exponent? : List Char → Option Int
  | [] => some 0
  | c :: rest =>
    if c = 'e' ∨ c = 'E' then
      match rest with
      | '-' :: ds => (Numeral.value? ds).map fun n => -(n : Int)
      | '+' :: ds => (Numeral.value? ds).map Int.ofNat
      | ds => (Numeral.value? ds).map Int.ofNat
    else none

/-- Digits, an optional point with digits after it, an optional exponent; at least one digit. -/
def unsigned? (s : List Char) : Option Parsed :=
  let whole := s.takeWhile isDigit
  let rest := s.dropWhile isDigit
  let (fraction, rest) := match rest with
    | '.' :: r => (r.takeWhile isDigit, r.dropWhile isDigit)
    | r => ([], r)
  match Numeral.value? (whole ++ fraction), exponent? rest with
  | some c, some e => some ⟨c, e - (fraction.length : Int)⟩
  | _, _ => none

/--
The double nearest to the number. Sizes beyond the range of doubles are settled by the number of
digits alone, which keeps the powers of ten small.
-/
def Parsed.toFloat (p : Parsed) : Float :=
  let size := p.exponent + ((Numeral.digits p.coefficient).length : Int)
  if p.coefficient = 0 ∨ size < -400 then 0.0
  else if 400 < size then Float.ofBits 0x7FF0000000000000
  else
    match p.exponent with
    | .ofNat e => Float.ofScientific p.coefficient false e
    | .negSucc e => Float.ofScientific p.coefficient true (e + 1)

def word? (s : List Char) : Option Float :=
  let w := String.ofList (s.map Char.toLower)
  if w = "inf" ∨ w = "infinity" then some (Float.ofBits 0x7FF0000000000000)
  else if w = "nan" then some (Float.ofBits 0x7FF8000000000000)
  else none

def magnitudeText? (s : List Char) : Option Float :=
  match unsigned? s with
  | some p => some p.toFloat
  | none => word? s

def read? : List Char → Option Float
  | '-' :: rest => (magnitudeText? rest).map fun x => -x
  | '+' :: rest => magnitudeText? rest
  | s => magnitudeText? s

end CalibratedSweep.Decimal
