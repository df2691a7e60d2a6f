import CalibratedSweep.Sink.Basic
/-!
A workspace: files, the directory that relative paths start from, and the result file that is
open for writing. `sinkFile` is the result file at a path of the workspace, and `output` is what
takes its place where the path may lead to a pipe.
-/

namespace CalibratedSweep

structure Workspace where
  files : Files
  directory : Place
  sink : Option Handle

namespace Workspace

def view (path : String) (w : Workspace) : Except OsError SinkView :=
  match w.files.stat w.directory path with
  | .error .notFound => .ok .missing
  | .error e => .error e
  | .ok .directory => .ok .directory
  | .ok (.pipe _) => .error .noPeer
  | .ok (.file content _) => .ok (.file content)

def start (path : String) (mode : OpenMode) (w : Workspace) : Except OsError Unit × Workspace :=
  match w.files.makeParent w.directory path with
  | (.error e, files) => (.error e, { w with files })
  | (.ok (), files) =>
    match files.openFile w.directory path (mode == .truncate) with
    | .error e => (.error e, { w with files })
    | .ok (files, place) =>
      let position := match mode with
        | .truncate => some 0
        | .append => none
      (.ok (), { w with files, sink := some ⟨place, position⟩ })

def extend (b : Bytes) (w : Workspace) : Except OsError Unit × Workspace :=
  match w.sink with
  | none => (.ok (), w)
  | some h =>
    let (files, h) := h.write w.files b
    (.ok (), { w with files, sink := some h })

def sinkFile (path : String) : SinkFile Workspace := ⟨view path, start path, extend⟩

def pipe? (path : String) (w : Workspace) : Option (Place × Nat) :=
  match w.files.locate w.directory path with
  | .error _ => none
  | .ok place =>
    match w.files.get? place with
    | some (.pipe lines) => some (place, lines)
    | _ => none

def send (place : Place) (lines : Nat) (b : Bytes) (w : Workspace) :
    Except OsError Unit × Workspace :=
  if lines = 0 then (.error .brokenPipe, w)
  else (.ok (), { w with files := w.files.put place (.pipe (lines - b.count 10)) })

/-- The result file at `path`, or the pipe there, which looks like an empty file. -/
def output (path : String) : SinkFile Workspace where
  view := fun w => if (pipe? path w).isSome then .ok (.file []) else view path w
  start := fun mode w =>
    match pipe? path w with
    | none => start path mode w
    | some (_, 0) => (.error .noPeer, w)
    | some (place, _) => (.ok (), { w with sink := some ⟨place, none⟩ })
  extend := fun b w =>
    match w.sink, w.sink.bind fun h => w.files.get? h.place with
    | some h, some (.pipe lines) => send h.place lines b w
    | _, _ => extend b w

end Workspace

end CalibratedSweep
