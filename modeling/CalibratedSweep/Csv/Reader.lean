import CalibratedSweep.Csv.Writer
/-!
Splits bytes into records of fields. Any end of line ends a record, and empty lines between
records are skipped. A quote opens a quoted field only at its start; inside, two quotes are one,
and what follows the closing quote up to the next comma is part of the field. The end of the input
closes an open record, even inside quotes. A byte order mark at the start is dropped.
-/

namespace CalibratedSweep.Csv

/-- A record, and the number of line feeds before reading it began, counted from 1. -/
structure Record where
  line : Nat
  fields : List Bytes
  deriving DecidableEq, Repr

inductive Mode where
  /-- Before a record; line ends are skipped here. -/
  | recordStart
  | fieldStart
  | plain
  | quoted
  /-- After a quote inside a quoted field: its end, or the first of two. -/
  | quoteSeen
  deriving DecidableEq, Repr

/-- The scan between two bytes. The current field and the fields before it are held backwards. -/
structure Scan where
  mode : Mode
  field : Bytes
  fields : List Bytes
  line : Nat
  startLine : Nat
  deriving DecidableEq, Repr

namespace Scan

def start : Scan := ⟨.recordStart, [], [], 1, 1⟩

def closeField (s : Scan) : List Bytes := s.field.reverse :: s.fields

def record (s : Scan) : Record := ⟨s.startLine, s.closeField.reverse⟩

def nextField (s : Scan) : Scan := { s with mode := .fieldStart, field := [], fields := s.closeField }

def nextRecord (s : Scan) : Scan := ⟨.recordStart, [], [], s.line, s.line⟩

def add (s : Scan) (b : UInt8) (mode : Mode) : Scan := { s with mode, field := b :: s.field }

def isLineEnd (b : UInt8) : Bool := b == lineFeed || b == carriageReturn

/-- A byte outside quotes, once the field has begun; gives the record that it ends, if any. -/
def unquoted (s : Scan) (b : UInt8) : Scan × Option Record :=
  if b = comma then (s.nextField, none)
  else if isLineEnd b then (s.nextRecord, some s.record)
  else (s.add b .plain, none)

def fieldStart (s : Scan) (b : UInt8) : Scan × Option Record :=
  if b = quote then ({ s with mode := .quoted }, none) else s.unquoted b

def step (s : Scan) (b : UInt8) : Scan × Option Record :=
  let s := if b = lineFeed then { s with line := s.line + 1 } else s
  match s.mode with
  | .recordStart => if isLineEnd b then (s, none) else s.fieldStart b
  | .fieldStart => s.fieldStart b
  | .plain => s.unquoted b
  | .quoted => if b = quote then ({ s with mode := .quoteSeen }, none) else (s.add b .quoted, none)
  | .quoteSeen => if b = quote then (s.add b .quoted, none) else s.unquoted b

def finish (s : Scan) : List Record :=
  match s.mode with
  | .recordStart => []
  | _ => [s.record]

def run (s : Scan) : Bytes → List Record
  | [] => s.finish
  | b :: rest =>
    match s.step b with
    | (s, none) => run s rest
    | (s, some r) => r :: run s rest

end Scan

def dropMark : Bytes → Bytes
  | 0xEF :: 0xBB :: 0xBF :: rest => rest
  | b => b

def records (content : Bytes) : List Record := Scan.start.run (dropMark content)

def Record.texts? (r : Record) : Option (List String) := r.fields.mapM Bytes.text?

end CalibratedSweep.Csv
