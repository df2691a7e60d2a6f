import CalibratedSweep.Text.Blank
import CalibratedSweep.Text.Numeral
/-!
Moments in universal time, read from and written in the form `2024-05-06T07:08:09.5Z`. Reading is
lenient about single digits and blanks, and takes an offset, which is subtracted. A second of 60
is a leap second and stays one.
-/

namespace CalibratedSweep

/-- Whole seconds since the start of 1970, and nanoseconds; 10^9 and more are in a leap second. -/
structure Timestamp where
  seconds : Int
  nanos : Nat
  deriving DecidableEq, Repr

namespace Timestamp

def isLeapYear (y : Int) : Bool := y % 4 == 0 && (y % 100 != 0 || y % 400 == 0)

def daysInMonth (y : Int) (m : Nat) : Nat :=
  if m = 2 then if isLeapYear y then 29 else 28
  else if m = 4 ∨ m = 6 ∨ m = 9 ∨ m = 11 then 30
  else 31

/-- Days from 1970-01-01 to a date, counted in years that start in March. -/
def daysFromDate (y : Int) (m d : Nat) : Int :=
  let y := if m ≤ 2 then y - 1 else y
  let era := y / 400
  let yearOfEra := y % 400
  let dayOfYear := (153 * ((m + 9) % 12) + 2) / 5 + d - 1
  era * 146097 + yearOfEra * 365 + yearOfEra / 4 - yearOfEra / 100 + dayOfYear - 719468

def dateFromDays (days : Int) : Int × Nat × Nat :=
  let z := days + 719468
  let era := z / 146097
  let doe := (z % 146097).toNat
  let yoe := (doe - doe / 1460 + doe / 36524 - doe / 146096) / 365
  let doy := doe - (365 * yoe + yoe / 4 - yoe / 100)
  let mp := (5 * doy + 2) / 153
  let d := doy - (153 * mp + 2) / 5 + 1
  let m := if mp < 10 then mp + 3 else mp - 9
  let y := (yoe : Int) + era * 400
  (if m ≤ 2 then y + 1 else y, m, d)

def number? (width : Nat) (s : List Char) : Option (Nat × List Char) :=
  let ds := (s.take width).takeWhile fun c => (Numeral.digit? c).isSome
  (Numeral.value? ds).map fun n => (n, s.drop ds.length)

def field? (s : List Char) : Option (Nat × List Char) := number? 2 (Text.trimStart s)

/-- A year: up to four digits, or any number of digits after a sign. -/
def year? (s : List Char) : Option (Int × List Char) :=
  match Text.trimStart s with
  | '-' :: rest => (number? rest.length rest).map fun (n, r) => (-(n : Int), r)
  | '+' :: rest => (number? rest.length rest).map fun (n, r) => ((n : Int), r)
  | rest => (number? 4 rest).map fun (n, r) => ((n : Int), r)

def literal? (c : Char) (s : List Char) : Option (List Char) :=
  match Text.trimStart s with
  | d :: rest => if d = c then some rest else none
  | [] => none

/-- An optional fraction of a second in nanoseconds; digits after the ninth are dropped. -/
def fraction? : List Char → Option (Nat × List Char)
  | '.' :: rest => do
    let (n, after) ← number? 9 rest
    let used := rest.length - after.length
    return (n * Nat.pow 10 (9 - used), after.dropWhile fun c => (Numeral.digit? c).isSome)
  | s => some (0, s)

/-- The offset after its sign: two digits of hours, and of minutes after colons or blanks. -/
def offsetDigits? (s : List Char) : Option (Int × List Char) :=
  match s with
  | h1 :: h2 :: rest => do
    let h1 ← Numeral.digit? h1
    let h2 ← Numeral.digit? h2
    match rest.dropWhile fun c => c == ':' || Text.isBlank c with
    | m1 :: m2 :: rest => do
      let m1 ← Numeral.digit? m1
      let m2 ← Numeral.digit? m2
      if m1 < 6 ∧ h1 * 10 + h2 < 24 then
        some (((h1 * 10 + h2) * 3600 + (m1 * 10 + m2) * 60 : Nat), rest)
      else none
    | _ => none
  | _ => none

def offset? (s : List Char) : Option (Int × List Char) :=
  match s with
  | 'Z' :: rest => some (0, rest)
  | 'z' :: rest => some (0, rest)
  | '+' :: rest => offsetDigits? rest
  | '-' :: rest => (offsetDigits? rest).map fun (n, r) => (-n, r)
  | c :: rest =>
    if c = Char.ofNat 0x2212 then (offsetDigits? rest).map fun (n, r) => (-n, r)
    else if ((c :: rest).take 3).map Char.toUpper = ['U', 'T', 'C'] then some (0, rest.drop 2)
    else none
  | [] => none

def isDateEnd (c : Char) : Bool := c == 'T' || c == 't' || c == ' '

def read? (text : String) : Option Timestamp := do
  let (year, s) ← year? text.toList
  let s ← literal? '-' s
  let (month, s) ← field? s
  let s ← literal? '-' s
  let (day, s) ← field? s
  let s ← match s with
    | c :: rest => if isDateEnd c then some rest else none
    | [] => none
  let (hour, s) ← field? s
  let s ← literal? ':' s
  let (minute, s) ← field? s
  let s ← literal? ':' s
  let (second, s) ← field? s
  let (nanos, s) ← fraction? s
  let (offset, s) ← offset? (Text.trimStart s)
  if (Text.trimStart s).isEmpty ∧ 1 ≤ month ∧ month ≤ 12 ∧ 1 ≤ day ∧ day ≤ daysInMonth year month ∧
      hour < 24 ∧ minute < 60 ∧ second ≤ 60 ∧ -262143 ≤ year ∧ year ≤ 262142 then
    let ordinary := min second 59
    let days := daysFromDate year month day
    some ⟨days * 86400 + (hour * 3600 + minute * 60 + ordinary : Nat) - offset,
      if second = 60 then nanos + 1000000000 else nanos⟩
  else none

def yearText (y : Int) : List Char :=
  if 0 ≤ y ∧ y ≤ 9999 then Numeral.padded 4 y.toNat
  else (if y < 0 then '-' else '+') :: Numeral.padded 4 y.natAbs

/-- As many digits of a second's fraction as needed, in groups of three. -/
def fractionText (nanos : Nat) : List Char :=
  if nanos = 0 then []
  else if nanos % 1000000 = 0 then '.' :: Numeral.padded 3 (nanos / 1000000)
  else if nanos % 1000 = 0 then '.' :: Numeral.padded 6 (nanos / 1000)
  else '.' :: Numeral.padded 9 nanos

def text (t : Timestamp) : String :=
  let (year, month, day) := dateFromDays (t.seconds / 86400)
  let second := (t.seconds % 86400).toNat
  let leap := if 1000000000 ≤ t.nanos then 1 else 0
  String.ofList <|
    yearText year ++ '-' :: Numeral.padded 2 month ++ '-' :: Numeral.padded 2 day ++
    'T' :: Numeral.padded 2 (second / 3600) ++ ':' :: Numeral.padded 2 (second / 60 % 60) ++
    ':' :: Numeral.padded 2 (second % 60 + leap) ++ fractionText (t.nanos % 1000000000) ++ ['Z']

end Timestamp

end CalibratedSweep
