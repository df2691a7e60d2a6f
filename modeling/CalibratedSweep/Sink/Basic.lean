import CalibratedSweep.Sink.Content
import CalibratedSweep.Files.Basic
/-!
The result file and the operations on it. A `SinkFile` is how the file is reached: looked at,
opened, written to. The sink creates it with a header, or reopens it behind what it holds, and
then only appends whole rows.
-/

namespace CalibratedSweep

inductive SinkView where
  | missing
  | directory
  | file (content : Bytes)
  deriving DecidableEq, Repr

inductive OpenMode where
  | truncate
  | append
  deriving DecidableEq, Repr

/-- Access to one file; `σ` holds it, with whatever else there is. -/
structure SinkFile (σ : Type) where
  view : σ → Except OsError SinkView
  start : OpenMode → σ → Except OsError Unit × σ
  extend : Bytes → σ → Except OsError Unit × σ

inductive SinkError where
  | io (error : OsError)
  | unreadable
  | foreignHeader (expected found : List String)
  | malformed (line : Nat) (error : Schema.KeyError)
  deriving DecidableEq, Repr

def SinkError.message (path : String) : SinkError → String
  | .io e => "I/O error on " ++ path ++ ": " ++ e.message
  | .unreadable => "CSV error on " ++ path
  | .foreignHeader expected found =>
    path ++ " has header " ++ Text.quotedList found ++ ", expected " ++ Text.quotedList expected
  | .malformed line e =>
    path ++ ": malformed row at line " ++ toString line ++ ": " ++ e.message

namespace Sink

def ContentError.toSinkError (s : Schema) : ContentError → SinkError
  | .undecodable => .unreadable
  | .foreignHeader found => .foreignHeader s.header found
  | .malformed line e => .malformed line e

def completed {σ : Type} (f : SinkFile σ) (s : Schema) (world : σ) :
    Except SinkError (List RowKey) :=
  match f.view world with
  | .error e => .error (.io e)
  | .ok .missing => .ok []
  | .ok .directory => .error .unreadable
  | .ok (.file content) => (keysIn s content).mapError (ContentError.toSinkError s)

def extend {σ : Type} (f : SinkFile σ) (b : Bytes) (world : σ) : Except SinkError Unit × σ :=
  match f.extend b world with
  | (.ok (), world) => (.ok (), world)
  | (.error e, world) => (.error (.io e), world)

def start {σ : Type} (f : SinkFile σ) (mode : OpenMode) (world : σ) : Except SinkError Unit × σ :=
  match f.start mode world with
  | (.ok (), world) => (.ok (), world)
  | (.error e, world) => (.error (.io e), world)

def create {σ : Type} (f : SinkFile σ) (s : Schema) (world : σ) : Except SinkError Unit × σ :=
  match start f .truncate world with
  | (.error e, world) => (.error e, world)
  | (.ok (), world) => extend f (headerLine s) world

/-- Whether the file still needs a header; a file with content must have the right one. -/
def needsHeader {σ : Type} (f : SinkFile σ) (s : Schema) (world : σ) : Except SinkError Bool :=
  match f.view world with
  | .error e => .error (.io e)
  | .ok .missing => .ok true
  | .ok .directory => .error .unreadable
  | .ok (.file content) =>
    if content.isEmpty then .ok true
    else ((checkHeader s content).map fun _ => false).mapError (ContentError.toSinkError s)

def append {σ : Type} (f : SinkFile σ) (s : Schema) (world : σ) : Except SinkError Unit × σ :=
  match needsHeader f s world with
  | .error e => (.error e, world)
  | .ok new =>
    match start f .append world with
    | (.error e, world) => (.error e, world)
    | (.ok (), world) => if new then extend f (headerLine s) world else (.ok (), world)

def writeRow {σ : Type} (f : SinkFile σ) (s : Schema) (r : Row) (world : σ) :
    Except SinkError Unit × σ :=
  extend f (rowLine s r) world

end Sink

end CalibratedSweep
