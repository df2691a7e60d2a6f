/-!
Decimal numerals. A natural number is written without sign and without leading zeros; it is read
with an optional plus sign and any leading zeros, and refused from a given limit on.
-/

namespace CalibratedSweep.Numeral

def digit? (c : Char) : Option Nat :=
  if '0' ≤ c ∧ c ≤ '9' then some (c.toNat - '0'.toNat) else none

/-- The number that the digits continue from `value`; nothing if some character is no digit. -/
def valueFrom? (value : Nat) : List Char → Option Nat
  | [] => some value
  | c :: rest =>
    match digit? c with
    | some d => valueFrom? (value * 10 + d) rest
    | none => none

def value? : List Char → Option Nat
  | [] => none
  | s => valueFrom? 0 s

def dropPlus : List Char → List Char
  | '+' :: rest => rest
  | s => s

def below? (limit : Nat) (s : List Char) : Option Nat :=
  match value? (dropPlus s) with
  | some n => if n < limit then some n else none
  | none => none

def uint32? (s : List Char) : Option UInt32 := (below? UInt32.size s).map UInt32.ofNat

def uint64? (s : List Char) : Option UInt64 := (below? UInt64.size s).map UInt64.ofNat

def signLimit : Nat := 0x8000000000000000

def signed64? : List Char → Option Int
  | '-' :: rest => (value? rest).bind fun n => if n ≤ signLimit then some (-(n : Int)) else none
  | s => (below? signLimit s).map Int.ofNat

def digits (n : Nat) : List Char := Nat.toDigits 10 n

def padded (width n : Nat) : List Char := (digits n).leftpad width '0'

end CalibratedSweep.Numeral
