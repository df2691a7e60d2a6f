import CalibratedSweep.Files.Basic
import CalibratedSweep.SweepFile.Basic
import CalibratedSweep.Toml.Decode
import CalibratedSweep.Toml.Reader
/-!
Reads a sweep file. Unknown fields are ignored; a field of the wrong kind or out of range makes the
whole file invalid.
-/

namespace CalibratedSweep.SweepFile

open Toml (Value Entries)

def path? (v : Value) : Option (Option String) := v.string?.map some

def imbalance? (v : Value) : Option (Option Int) := v.integer?.map some

/-- The first two numbers of an array; more are ignored. -/
def pair? (v : Value) : Option ThreadPair :=
  match v.items? with
  | some (p :: c :: _) => do return ⟨← p.uint32?, ← c.uint32?⟩
  | _ => none

def shape? (v : Value) : Option ThreadShape := v.name?.bind ThreadShape.ofName?

def worker? (v : Value) : Option WorkerSection := do
  let es ← v.fields? ["binary", "working_dir", "imbalance"]
  return ⟨← es.field? "binary" path? none, ← es.field? "working_dir" path? none,
    ← es.field? "imbalance" imbalance? none⟩

def probe? (v : Value) : Option ProbeSection := do
  let d := ProbeSection.standard
  let es ← v.fields? ["binary", "runs", "checks", "min_delay_ns"]
  return ⟨← es.field? "binary" path? d.binary, ← es.field? "runs" Value.uint64? d.runs,
    ← es.field? "checks" Value.uint64? d.checks, ← es.field? "min_delay_ns" Value.uint64? d.minDelay⟩

def matrix? (v : Value) : Option MatrixSection := do
  let d := MatrixSection.standard
  let es ← v.fields? ["queues", "threads", "shapes", "thread_counts", "sizes", "delays", "ops", "runs"]
  return ⟨← es.field? "queues" (Value.list? Value.string?) d.queues,
    ← es.field? "threads" (Value.list? pair?) d.threads,
    ← es.field? "shapes" (Value.list? shape?) d.shapes,
    ← es.field? "thread_counts" (Value.list? Value.uint32?) d.threadCounts,
    ← es.field? "sizes" (Value.list? Value.uint64?) d.sizes,
    ← es.field? "delays" (Value.list? Value.uint64?) d.delays,
    ← es.field? "ops" Value.uint64? d.ops, ← es.field? "runs" Value.uint32? d.runs⟩

def timeout? (v : Value) : Option TimeoutSection := do
  let d := TimeoutSection.standard
  let es ← v.fields? ["floor", "scale", "grace"]
  return ⟨← es.field? "floor" Value.string? d.floor, ← es.field? "scale" Value.number? d.scale,
    ← es.field? "grace" Value.string? d.grace⟩

def output? (v : Value) : Option OutputSection := do
  let d := OutputSection.standard
  let es ← v.fields? ["csv", "report", "resume"]
  return ⟨← es.field? "csv" Value.string? d.csv, ← es.field? "report" path? d.report,
    ← es.field? "resume" Value.boolean? d.resume⟩

def affinity? (v : Value) : Option (Option String) := do
  let es ← v.fields? ["pinning_file"]
  es.field? "pinning_file" path? none

def ofValue? (v : Value) : Option SweepFile := do
  let d := SweepFile.standard
  let es ← v.fields? ["worker", "probe", "sweep", "timeout", "output", "affinity"]
  return ⟨← es.field? "worker" worker? d.worker, ← es.field? "probe" probe? d.probe,
    ← es.field? "sweep" matrix? d.sweep, ← es.field? "timeout" timeout? d.timeout,
    ← es.field? "output" output? d.output, ← es.field? "affinity" affinity? d.pinningFile⟩

def read? (text : String) : Option SweepFile := (Toml.read? text).bind ofValue?

inductive LoadError where
  | unreadable (error : OsError)
  | invalid
  deriving DecidableEq, Repr

def LoadError.message (path : String) : LoadError → String
  | .unreadable e => "cannot read " ++ path ++ ": " ++ e.message
  | .invalid => "invalid configuration " ++ path

def load (f : Files) (base : Place) (path : String) : Except LoadError SweepFile :=
  match f.readText base path with
  | .error e => .error (.unreadable e)
  | .ok text =>
    match read? text with
    | some s => .ok s
    | none => .error .invalid

end CalibratedSweep.SweepFile
