import CalibratedSweep.Duration.Basic
import CalibratedSweep.Decimal.Reader
import CalibratedSweep.Text.Blank
import CalibratedSweep.Unicode.Alphabetic
/-!
Durations written by hand: a decimal number and a unit (`90s`, `1.5 min`, `500ms`), seconds when
there is no unit. The unit starts at the first alphabetic character. The number is read as a
double, scaled to nanoseconds and cut to a whole number of 64 bits.
-/

namespace CalibratedSweep.Duration

inductive ReadError where
  | blank
  | badNumber (number : String)
  | outOfRange (text : String)
  | unknownUnit (unit : String)
  deriving DecidableEq, Repr

def ReadError.message : ReadError → String
  | .blank => "Empty duration string"
  | .badNumber n => "Invalid duration number: " ++ n
  | .outOfRange t => "Invalid duration: " ++ t
  | .unknownUnit u => "Unknown duration unit: " ++ u

def unit? (name : List Char) : Option UInt64 :=
  match String.ofList (name.map Char.toLower) with
  | "ns" => some 1
  | "us" | "µs" => some 1000
  | "ms" => some 1000000
  | "s" => some 1000000000
  | "m" | "min" => some 60000000000
  | _ => none

/-- The number and the unit, split before the first alphabetic character. -/
def splitUnit (s : List Char) : List Char × List Char :=
  let number := s.takeWhile fun c => !Unicode.isAlphabetic c
  match s.dropWhile fun c => !Unicode.isAlphabetic c with
  | [] => (number, ['s'])
  | unit => (number, unit)

def readNanos (text : String) : Except ReadError UInt64 :=
  let s := Text.trim text.toList
  if s.isEmpty then .error .blank
  else
    let (number, unit) := splitUnit s
    match Decimal.read? (Text.trim number) with
    | none => .error (.badNumber (String.ofList number))
    | some value =>
      if !value.isFinite || value < 0.0 then .error (.outOfRange (String.ofList s))
      else
        match unit? unit with
        | none => .error (.unknownUnit (String.ofList unit))
        | some nanos => .ok (value * nanos.toFloat).toUInt64

def read (text : String) : Except ReadError Duration :=
  (readNanos text).map fun n => ⟨n.toNat⟩

end CalibratedSweep.Duration
