import CalibratedSweep.CommandLine.Reader
import CalibratedSweep.CommandLine.Run
import CalibratedSweep.Script.Launcher
import CalibratedSweep.Text.Blank
/-!
The command `qsweep`. It works on a copy of the files below the current directory and of the sweep
files above it, and in the end writes back what has changed. Workers and probes are shell scripts,
which the command interprets itself; the time they take is theirs alone and is not measured.
-/

namespace CalibratedSweep.Main

open CommandLine (absolutePath upwards)

/-- A file that names an interpreter can be executed. -/
def fileEntry (content : ByteArray) : Entry :=
  let b : Bytes := content.toList
  .file b (Command.namesInterpreter b)

def readBelow (place : Place) : Nat → IO (List (Place × Entry))
  | 0 => return []
  | depth + 1 => do
    let found ← try (← IO.FS.realPath (absolutePath place)).readDir catch _ => pure #[]
    let mut entries := []
    for e in found do
      let inner := place ++ [e.fileName]
      try
        if (← e.path.metadata).type == .dir then
          entries := entries ++ (inner, .directory) :: (← readBelow inner depth)
        else
          entries := (inner, fileEntry (← IO.FS.readBinFile e.path)) :: entries
      catch _ => pure ()
    return entries

def readAbove (place : Place) : IO (List (Place × Entry)) := do
  let file := place ++ ["sweep.toml"]
  try
    return [(place, .directory), (file, fileEntry (← IO.FS.readBinFile (absolutePath file)))]
  catch _ => return [(place, .directory)]

def readWorkspace : IO Workspace := do
  let directory := (Path.ofText (← IO.currentDir).toString).names
  let above := (upwards directory.reverse).filter fun p => !p.isEmpty
  let outer ← above.mapM readAbove
  return ⟨⟨(← readBelow directory 16) ++ outer.flatten⟩, directory, none⟩

/-- Writes the entries that were not there before. Pipes are gone with the scripts that made them. -/
def writeBack (before after : Files) : IO Unit := do
  let changed := after.entries.filter fun (p, e) => before.entries.lookup p != some e
  for (place, entry) in changed do
    match entry with
    | .directory => IO.FS.createDirAll (absolutePath place)
    | .pipe _ => pure ()
    | .file content _ =>
      IO.FS.createDirAll (absolutePath place.dropLast)
      IO.FS.writeBinFile (absolutePath place) ⟨content.toArray⟩

def systemText (path : String) : IO String := do
  try return (← IO.FS.readFile path) catch _ => return ""

def valueOf? (key text : String) : Option String :=
  ((text.splitOn "\n").find? fun line => line.startsWith key).bind fun line =>
    match line.splitOn ":" with
    | _ :: value => some (String.ofList (Text.trim (":".intercalate value).toList))
    | [] => none

def now : IO Timestamp := do
  let (_, path) ← IO.FS.createTempFile
  let t := (← path.metadata).modified
  IO.FS.removeFile path
  return ⟨t.sec, t.nsec.toNat⟩

def about : IO Report.Meta := do
  let processors ← systemText "/proc/cpuinfo"
  let memory := (valueOf? "MemTotal" (← systemText "/proc/meminfo")).bind fun s =>
    Numeral.value? (s.toList.takeWhile Char.isDigit)
  let cores := (processors.splitOn "\n").countP fun line => line.startsWith "processor"
  let unknown := "Unknown"
  return ⟨1, "0.1.0", ← now, none, none,
    ⟨"linux", unknown, (valueOf? "model name" processors).getD unknown,
      UInt32.ofNat (max 1 cores), Float.ofNat (memory.getD 0) / 1048576.0⟩⟩

def perform (action : CommandLine.Action) (arguments : CommandLine.Arguments) : IO UInt32 := do
  let w ← readWorkspace
  let t := CommandLine.perform Script.launch ⟨← about, 0⟩ action arguments w
  writeBack w.files t.workspace.files
  for line in t.log do
    if !arguments.quiet || !line.startsWith Level.info.name then IO.eprintln line
  IO.print t.stdout
  match t.result with
  | .ok () => return 0
  | .error e =>
    IO.eprintln ("Error: " ++ e.message)
    return 1

end CalibratedSweep.Main

open CalibratedSweep in
def main (words : List String) : IO UInt32 := do
  match CommandLine.read words with
  | .ok (action, arguments) => Main.perform action arguments
  | .error .helpAsked =>
    IO.println CommandLine.UsageError.helpAsked.message
    return 0
  | .error .versionAsked =>
    IO.println CommandLine.UsageError.versionAsked.message
    return 0
  | .error e =>
    IO.eprintln ("error: " ++ e.message)
    return 2
