import CalibratedSweep.Decimal.Reader
import CalibratedSweep.Json.Basic
/-!
Reads JSON text. Numbers with neither fraction nor exponent are integers as long as they fit 64
bits. Every reading step uses up text, so the length of the text bounds the recursion.
-/

namespace CalibratedSweep.Json

def isSpace (c : Char) : Bool := c == ' ' || c == '\n' || c == '\r' || c == '\t'

def skipSpace (s : List Char) : List Char := s.dropWhile isSpace

def hexValue? (c : Char) : Option Nat :=
  if '0' ≤ c ∧ c ≤ '9' then some (c.toNat - '0'.toNat)
  else if 'a' ≤ c ∧ c ≤ 'f' then some (c.toNat - 'a'.toNat + 10)
  else if 'A' ≤ c ∧ c ≤ 'F' then some (c.toNat - 'A'.toNat + 10)
  else none

def unit? : List Char → Option (Nat × List Char)
  | a :: b :: c :: d :: rest => do
    let a ← hexValue? a
    let b ← hexValue? b
    let c ← hexValue? c
    let d ← hexValue? d
    return (((a * 16 + b) * 16 + c) * 16 + d, rest)
  | _ => none

/-- The character that one unit, or two for a surrogate pair, stands for. -/
def escapedUnit? (s : List Char) : Option (Char × List Char) :=
  match unit? s with
  | none => none
  | some (u, rest) =>
    if 0xD800 ≤ u ∧ u < 0xDC00 then
      match rest with
      | '\\' :: 'u' :: rest =>
        match unit? rest with
        | some (v, rest) =>
          if 0xDC00 ≤ v ∧ v < 0xE000 then
            some (Char.ofNat (0x10000 + (u - 0xD800) * 1024 + (v - 0xDC00)), rest)
          else none
        | none => none
      | _ => none
    else if 0xDC00 ≤ u ∧ u < 0xE000 then none
    else some (Char.ofNat u, rest)

def escape? : List Char → Option (Char × List Char)
  | '\"' :: rest => some ('\"', rest)
  | '\\' :: rest => some ('\\', rest)
  | '/' :: rest => some ('/', rest)
  | 'b' :: rest => some (Char.ofNat 8, rest)
  | 'f' :: rest => some (Char.ofNat 12, rest)
  | 'n' :: rest => some ('\n', rest)
  | 'r' :: rest => some ('\r', rest)
  | 't' :: rest => some ('\t', rest)
  | 'u' :: rest => escapedUnit? rest
  | _ => none

/-- The rest of a string after its opening quote; `acc` holds what was read, backwards. -/
def stringFrom? (acc : List Char) : Nat → List Char → Option (String × List Char)
  | 0, _ => none
  | _ + 1, [] => none
  | fuel + 1, c :: rest =>
    if c = '\"' then some (String.ofList acc.reverse, rest)
    else if c = '\\' then
      match escape? rest with
      | some (d, rest) => stringFrom? (d :: acc) fuel rest
      | none => none
    else if c.toNat < 32 then none
    else stringFrom? (c :: acc) fuel rest

def isNumberChar (c : Char) : Bool :=
  Decimal.isDigit c || c == '-' || c == '+' || c == '.' || c == 'e' || c == 'E'

def isWhole : List Char → Bool
  | [] => false
  | ['0'] => true
  | c :: rest => c != '0' && (c :: rest).all Decimal.isDigit

def isTail (s : List Char) : Bool :=
  match s with
  | '.' :: rest =>
    !(rest.takeWhile Decimal.isDigit).isEmpty &&
      (Decimal.exponent? (rest.dropWhile Decimal.isDigit)).isSome
  | rest => (Decimal.exponent? rest).isSome

def number? (text : List Char) : Option Json :=
  let (negative, digits) := match text with
    | '-' :: rest => (true, rest)
    | rest => (false, rest)
  let whole := digits.takeWhile Decimal.isDigit
  let tail := digits.dropWhile Decimal.isDigit
  if !isWhole whole || !isTail tail then none
  else
    let float := (Decimal.read? text).map Json.number
    if tail.isEmpty then
      match Numeral.value? whole with
      | none => none
      | some n =>
        if !negative && n < UInt64.size then some (.integer n)
        else if negative && 0 < n && n ≤ Numeral.signLimit then some (.integer (-(n : Int)))
        else float
    else float

def word? : List Char → Option (Json × List Char)
  | 'n' :: 'u' :: 'l' :: 'l' :: rest => some (.null, rest)
  | 't' :: 'r' :: 'u' :: 'e' :: rest => some (.bool true, rest)
  | 'f' :: 'a' :: 'l' :: 's' :: 'e' :: rest => some (.bool false, rest)
  | _ => none

mutual

def value? : Nat → List Char → Option (Json × List Char)
  | 0, _ => none
  | fuel + 1, s =>
    match skipSpace s with
    | [] => none
    | c :: rest =>
      if c = '\"' then (stringFrom? [] fuel rest).map fun (t, rest) => (.string t, rest)
      else if c = '[' then
        match skipSpace rest with
        | ']' :: rest => some (.array [], rest)
        | rest => (items? [] fuel rest).map fun (js, rest) => (.array js, rest)
      else if c = '\x7b' then
        match skipSpace rest with
        | '\x7d' :: rest => some (.object [], rest)
        | rest => (fields? [] fuel rest).map fun (fs, rest) => (.object fs, rest)
      else if c = '-' ∨ Decimal.isDigit c then
        (number? ((c :: rest).takeWhile isNumberChar)).map fun j =>
          (j, (c :: rest).dropWhile isNumberChar)
      else word? (c :: rest)

def items? (acc : List Json) : Nat → List Char → Option (List Json × List Char)
  | 0, _ => none
  | fuel + 1, s =>
    match value? fuel s with
    | none => none
    | some (j, rest) =>
      match skipSpace rest with
      | ',' :: rest => items? (j :: acc) fuel rest
      | ']' :: rest => some ((j :: acc).reverse, rest)
      | _ => none

def fields? (acc : List (String × Json)) : Nat → List Char →
    Option (List (String × Json) × List Char)
  | 0, _ => none
  | fuel + 1, s =>
    match skipSpace s with
    | '\"' :: rest =>
      match stringFrom? [] fuel rest with
      | none => none
      | some (name, rest) =>
        match skipSpace rest with
        | ':' :: rest =>
          match value? fuel rest with
          | none => none
          | some (j, rest) =>
            match skipSpace rest with
            | ',' :: rest => fields? ((name, j) :: acc) fuel rest
            | '\x7d' :: rest => some (((name, j) :: acc).reverse, rest)
            | _ => none
        | _ => none
    | _ => none

end

def read? (text : String) : Option Json :=
  let s := text.toList
  match value? (2 * s.length + 2) s with
  | some (j, rest) => if (skipSpace rest).isEmpty then some j else none
  | none => none

end CalibratedSweep.Json
