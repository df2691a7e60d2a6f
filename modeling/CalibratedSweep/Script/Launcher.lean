import CalibratedSweep.Files.Workspace
import CalibratedSweep.Script.Run
/-!
Starts programs that are shell scripts, over the files of a workspace. The first line of a program
names its interpreter; one without such a line is taken for a script as well. Of the programs of the
system a few are known that are commands of scripts, too.
-/

namespace CalibratedSweep.Script

def shellNames : List String := ["sh", "dash", "bash"]

def shellPaths : List String := shellNames.flatMap fun n => ["/bin/" ++ n, "/usr/bin/" ++ n]

def namesShell : List String → Bool
  | path :: rest =>
    path ∈ shellPaths || (path == "/usr/bin/env" && rest.head?.any fun n => n ∈ shellNames)
  | [] => false

def interpreterWords (text : List Char) : List String :=
  let line := text.takeWhile (· != '\n')
  (Shell.Fields.addSplit ⟨[], none⟩ line).close.done.reverse

def isForShell (text : String) : Bool :=
  match text.toList with
  | '#' :: '!' :: rest => namesShell (interpreterWords rest)
  | _ => true

def systemPrograms : List String := ["true", "false", "echo", "printf", "test", "cat", "sleep"]

def systemProgram? (binary : String) : Option (List String → Shell → Shell) :=
  (systemPrograms.find? fun n => binary ∈ [n, "/bin/" ++ n, "/usr/bin/" ++ n]).bind builtin?

def launchSystem (program : List String → Shell → Shell) : Launcher Workspace := fun cmd bound w =>
  match if cmd.isUnfit then .error .nulInArgument else cmd.directory w.files w.directory with
  | .error e => (.error e, w)
  | .ok directory =>
    let sh := program cmd.arguments (start w.files directory cmd.binary cmd.arguments bound)
    (.ok (sh.supervised bound), { w with files := sh.files })

def launchScript : Launcher Workspace := fun cmd bound w =>
  match cmd.resolve w.files w.directory with
  | .error e => (.error e, w)
  | .ok program =>
    let text := Bytes.lossyText program.content
    if isForShell text then
      let sh := runText text (start w.files program.directory cmd.binary cmd.arguments bound)
      (.ok (sh.supervised bound), { w with files := sh.files })
    else (.error .notFound, w)

def launch : Launcher Workspace := fun cmd bound w =>
  match systemProgram? cmd.binary with
  | some program => launchSystem program cmd bound w
  | none => launchScript cmd bound w

end CalibratedSweep.Script
