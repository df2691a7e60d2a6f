import CalibratedSweep.Script.Basic
import CalibratedSweep.Supervision.Launch
/-!
The state of a shell: files, arguments, variables, where its streams go, what was printed, and how
much time has passed. A shell that reaches its deadline is cut off and does nothing more.
-/

namespace CalibratedSweep.Script

inductive Outlet where
  | stdout
  | stderr
  | file (p : Place)
  | nowhere
  deriving DecidableEq, Repr

structure Shell where
  files : Files
  directory : Place
  name : String
  arguments : List String
  values : List (String × String)
  status : Nat
  clock : Duration
  deadline : Option Duration
  out : Outlet
  err : Outlet
  input : Bytes
  stdout : Bytes
  stderr : Bytes
  ended : Option ExitStatus

namespace Shell

def isCut (sh : Shell) : Bool := sh.deadline.any fun d => decide (d ≤ sh.clock)

def isOver (sh : Shell) : Bool := sh.ended.isSome || sh.isCut

def withStatus (sh : Shell) (n : Nat) : Shell := { sh with status := n }

def writeTo (sh : Shell) (o : Outlet) (b : Bytes) : Shell :=
  match o with
  | .stdout => { sh with stdout := sh.stdout ++ b }
  | .stderr => { sh with stderr := sh.stderr ++ b }
  | .nowhere => sh
  | .file p => { sh with files := ((⟨p, none⟩ : Handle).write sh.files b).1 }

def print (sh : Shell) (s : String) : Shell := sh.writeTo sh.out (Bytes.ofText s)

def complain (sh : Shell) (line : Nat) (message : String) : Shell :=
  sh.writeTo sh.err (Bytes.ofText
    (sh.name ++ ": " ++ toString line ++ ": " ++ message ++ "\n"))

/-! Parameters and words -/

def parameter (sh : Shell) (name : String) : String :=
  match name with
  | "#" => toString sh.arguments.length
  | "?" => toString sh.status
  | "$" => "1"
  | "*" | "@" => " ".intercalate sh.arguments
  | "0" => sh.name
  | name =>
    match Numeral.value? name.toList with
    | some n => (sh.arguments[n - 1]?).getD ""
    | none => (sh.values.lookup name).getD ""

/-- Fields under construction: those finished, backwards, and the one begun. -/
structure Fields where
  done : List String
  current : Option (List Char)

def Fields.add (f : Fields) (s : List Char) : Fields :=
  { f with current := some (f.current.getD [] ++ s) }

def Fields.close (f : Fields) : Fields :=
  match f.current with
  | some s => ⟨String.ofList s :: f.done, none⟩
  | none => f

def isSeparator (c : Char) : Bool := c == ' ' || c == '\t' || c == '\n'

def Fields.addSplit (f : Fields) : List Char → Fields
  | [] => f
  | c :: rest => if isSeparator c then f.close.addSplit rest else (f.add [c]).addSplit rest

/-- Adds values, each of which starts a field of its own but the first. -/
def Fields.addEach (add : Fields → List Char → Fields) (f : Fields) : List String → Fields
  | [] => f
  | [s] => add f s.toList
  | s :: rest => Fields.addEach add (add f s.toList).close rest

def addPart (sh : Shell) (f : Fields) : Part → Fields
  | .text s quoted => if s.isEmpty && !quoted then f else f.add s
  | .parameter "@" true => Fields.addEach Fields.add f sh.arguments
  | .parameter "@" false | .parameter "*" false => Fields.addEach Fields.addSplit f sh.arguments
  | .parameter name true => f.add (sh.parameter name).toList
  | .parameter name false => f.addSplit (sh.parameter name).toList

def fields (sh : Shell) (w : Word) : List String :=
  (w.foldl (addPart sh) ⟨[], none⟩).close.done.reverse

def whole (sh : Shell) (w : Word) : String :=
  String.join (w.map fun
    | .text s _ => String.ofList s
    | .parameter name _ => sh.parameter name)

/-! Patterns -/

def patternChars (sh : Shell) (w : Word) : List (Char × Bool) :=
  w.flatMap fun
    | .text s quoted => s.map fun c => (c, quoted)
    | .parameter name quoted => (sh.parameter name).toList.map fun c => (c, quoted)

def anySuffix (f : List Char → Bool) : List Char → Bool
  | [] => f []
  | c :: rest => f (c :: rest) || anySuffix f rest

/-- Whether a text is matched as a whole: a star stands for any text, a question mark for a character. -/
def fits : List (Char × Bool) → List Char → Bool
  | [], s => s.isEmpty
  | ('*', false) :: p, s => anySuffix (fits p) s
  | ('?', false) :: p, s =>
    match s with
    | _ :: rest => fits p rest
    | [] => false
  | (c, _) :: p, s =>
    match s with
    | d :: rest => c == d && fits p rest
    | [] => false

/-! Redirections -/

def outletOf (sh : Shell) : Nat → Outlet
  | 1 => sh.out
  | 2 => sh.err
  | _ => .nowhere

def setOutlet (sh : Shell) (stream : Nat) (o : Outlet) : Shell :=
  match stream with
  | 1 => { sh with out := o }
  | 2 => { sh with err := o }
  | _ => sh

def refusal : OsError → String
  | .notFound => "Directory nonexistent"
  | .isDirectory => "Is a directory"
  | .notDirectory => "Not a directory"
  | _ => "Permission denied"

def redirect (sh : Shell) (r : Redirection) : Except String Shell :=
  match r.target with
  | .stream n => .ok (sh.setOutlet r.stream (sh.outletOf n))
  | .input w =>
    let path := sh.whole w
    if path = "/dev/null" then .ok { sh with input := [] }
    else
      match sh.files.read sh.directory path with
      | .ok b => .ok { sh with input := b }
      | .error _ => .error ("cannot open " ++ path ++ ": No such file")
  | .file w append =>
    let path := sh.whole w
    if path = "/dev/null" then .ok (sh.setOutlet r.stream .nowhere)
    else
      match sh.files.openFile sh.directory path (!append) with
      | .ok (files, place) => .ok ({ sh with files }.setOutlet r.stream (.file place))
      | .error e => .error ("cannot create " ++ path ++ ": " ++ refusal e)

def redirectAll (sh : Shell) : List Redirection → Except String Shell
  | [] => .ok sh
  | r :: rest =>
    match sh.redirect r with
    | .ok sh => redirectAll sh rest
    | .error message => .error message

def restoreStreams (sh before : Shell) : Shell :=
  { sh with out := before.out, err := before.err, input := before.input }

end Shell

end CalibratedSweep.Script
