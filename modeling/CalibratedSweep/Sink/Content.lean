import CalibratedSweep.Csv.Reader
import CalibratedSweep.Schema
/-!
What the bytes of a result file say: whether its header is that of a schema, and the keys of the
rows after it. An empty file has no rows and needs no header.
-/

namespace CalibratedSweep.Sink

inductive ContentError where
  | undecodable
  | foreignHeader (found : List String)
  | malformed (line : Nat) (error : Schema.KeyError)
  deriving DecidableEq, Repr

def headerLine (s : Schema) : Bytes := Csv.writeRecord s.header

def rowLine (s : Schema) (r : Row) : Bytes := Csv.writeRecord (s.record r)

def checkHeader (s : Schema) (content : Bytes) : Except ContentError Unit :=
  match (Csv.records content).head? with
  | none => .error (.foreignHeader [])
  | some r =>
    match r.texts? with
    | none => .error .undecodable
    | some found => if found = s.header then .ok () else .error (.foreignHeader found)

def recordKey (s : Schema) (r : Csv.Record) : Except ContentError RowKey :=
  match r.texts? with
  | none => .error .undecodable
  | some fields =>
    match s.parseKey fields with
    | .ok k => .ok k
    | .error e => .error (.malformed r.line e)

def recordKeys (s : Schema) : List Csv.Record → Except ContentError (List RowKey)
  | [] => .ok []
  | r :: rest =>
    match recordKey s r with
    | .error e => .error e
    | .ok k => (recordKeys s rest).map (k :: ·)

def keysIn (s : Schema) (content : Bytes) : Except ContentError (List RowKey) :=
  if content.isEmpty then .ok []
  else
    match checkHeader s content with
    | .error e => .error e
    | .ok () => recordKeys s (Csv.records content).tail

end CalibratedSweep.Sink
