import CalibratedSweep.Decimal.Reader
import CalibratedSweep.Script.Shell

namespace CalibratedSweep.Script

def isOctal (c : Char) : Bool := '0' ≤ c && c ≤ '7'

def octal (value : Nat) : Nat → List Char → Nat × List Char
  | 0, s => (value, s)
  | _, [] => (value, [])
  | count + 1, c :: rest =>
    if isOctal c then octal (value * 8 + (c.toNat - '0'.toNat)) count rest
    else (value, c :: rest)

def escapeLetter? : Char → Option Nat
  | 'a' => some 7
  | 'b' => some 8
  | 'f' => some 12
  | 'n' => some 10
  | 'r' => some 13
  | 't' => some 9
  | 'v' => some 11
  | '\\' => some 92
  | _ => none

/-- Text with its escapes replaced, and whether one of them stops all output. -/
def unescape : Nat → List Char → Bytes × Bool
  | 0, _ => ([], false)
  | _, [] => ([], false)
  | fuel + 1, '\\' :: 'c' :: _ => let _ := fuel; ([], true)
  | fuel + 1, '\\' :: '0' :: rest =>
    let (n, rest) := octal 0 3 rest
    let (b, stop) := unescape fuel rest
    (UInt8.ofNat n :: b, stop)
  | fuel + 1, '\\' :: c :: rest =>
    let (b, stop) := unescape fuel rest
    match escapeLetter? c with
    | some n => (UInt8.ofNat n :: b, stop)
    | none => (Bytes.ofText (String.ofList ['\\', c]) ++ b, stop)
  | fuel + 1, c :: rest =>
    let (b, stop) := unescape fuel rest
    (Bytes.ofText (String.ofList [c]) ++ b, stop)

namespace Shell

/-- Writes its arguments with blanks between, and an end of line unless `-n` comes first. -/
def echo (arguments : List String) (sh : Shell) : Shell :=
  let (arguments, lineEnd) : List String × Bytes := match arguments with
    | "-n" :: rest => (rest, [])
    | rest => (rest, [10])
  let s := (" ".intercalate arguments).toList
  let (b, stop) := unescape (s.length + 1) s
  (sh.writeTo sh.out (if stop then b else b ++ lineEnd)).withStatus 0

/-- One pass over a format: conversions take arguments, and missing ones are empty. -/
def format : Nat → List Char → List String → Bytes × List String
  | 0, _, args => ([], args)
  | _, [], args => ([], args)
  | fuel + 1, '%' :: '%' :: rest, args =>
    let (b, args) := format fuel rest args
    (37 :: b, args)
  | fuel + 1, '%' :: c :: rest, args =>
    let value := match args.head?, c with
      | some s, _ => s
      | none, 'd' => "0"
      | none, _ => ""
    let (b, args) := format fuel rest args.tail
    (Bytes.ofText value ++ b, args)
  | fuel + 1, '\\' :: c :: rest, args =>
    let (taken, rest) : Bytes × List Char :=
      if isOctal c then
        let (n, rest) := octal 0 3 (c :: rest)
        ([UInt8.ofNat n], rest)
      else
        match escapeLetter? c with
        | some n => ([UInt8.ofNat n], rest)
        | none => (Bytes.ofText (String.ofList ['\\', c]), rest)
    let (b, args) := format fuel rest args
    (taken ++ b, args)
  | fuel + 1, c :: rest, args =>
    let (b, args) := format fuel rest args
    (Bytes.ofText (String.ofList [c]) ++ b, args)

def formatAll (f : List Char) : Nat → List String → Bytes
  | 0, _ => []
  | passes + 1, args =>
    let (b, left) := format (f.length + 1) f args
    if left.isEmpty ∨ left.length = args.length then b else b ++ formatAll f passes left

def printf (arguments : List String) (sh : Shell) : Shell :=
  match arguments with
  | [] => sh.withStatus 2
  | f :: args => (sh.writeTo sh.out (formatAll f.toList (args.length + 1) args)).withStatus 0

def comparison? : String → Option (Int → Int → Bool)
  | "-eq" => some fun a b => a == b
  | "-ne" => some fun a b => a != b
  | "-lt" => some fun a b => decide (a < b)
  | "-le" => some fun a b => decide (a ≤ b)
  | "-gt" => some fun a b => decide (b < a)
  | "-ge" => some fun a b => decide (b ≤ a)
  | _ => none

def unary (sh : Shell) (op operand : String) : Option Bool :=
  let entry := sh.files.stat sh.directory operand
  match op, entry with
  | "-n", _ => some (operand != "")
  | "-z", _ => some (operand == "")
  | "-e", .ok _ => some true
  | "-f", .ok (.file _ _) => some true
  | "-p", .ok (.pipe _) => some true
  | "-d", .ok .directory => some true
  | "-x", .ok .directory => some true
  | "-x", .ok (.file _ executable) => some executable
  | "-x", .ok (.pipe _) => some false
  | "-r", .ok _ => some true
  | "-w", .ok _ => some true
  | "-s", .ok (.file b _) => some (!b.isEmpty)
  | "-s", .ok .directory => some true
  | op, _ =>
    if op ∈ ["-e", "-f", "-p", "-d", "-x", "-r", "-w", "-s"] then some false else none

def condition (sh : Shell) : List String → Option Bool
  | [] => some false
  | [s] => some (s != "")
  | ["!", s] => some (s == "")
  | [op, s] => sh.unary op s
  | "!" :: [op, s] => (sh.unary op s).map (!·)
  | [a, "=", b] => some (a == b)
  | [a, "!=", b] => some (a != b)
  | [a, op, b] =>
    match comparison? op, Numeral.signed64? a.toList, Numeral.signed64? b.toList with
    | some f, some m, some n => some (f m n)
    | _, _, _ => none
  | "!" :: [a, "=", b] => some (a != b)
  | "!" :: [a, "!=", b] => some (a == b)
  | _ => none

def test (arguments : List String) (sh : Shell) : Shell :=
  sh.withStatus (match sh.condition arguments with
    | some true => 0
    | some false => 1
    | none => 2)

def sleepTime? (s : String) : Option Duration :=
  let (number, factor) := match s.toList.reverse with
    | 's' :: rest => (rest.reverse, 1.0)
    | 'm' :: rest => (rest.reverse, 60.0)
    | 'h' :: rest => (rest.reverse, 3600.0)
    | 'd' :: rest => (rest.reverse, 86400.0)
    | _ => (s.toList, 1.0)
  (Decimal.read? number).bind fun x => Duration.ofFloatSeconds? (x * factor)

def sleepComplaint (arguments : List String) : String :=
  let bad := arguments.filter fun s => (sleepTime? s).isNone
  let lines := if arguments.isEmpty then ["sleep: missing operand"]
    else bad.map fun s => "sleep: invalid time interval ‘" ++ s ++ "’"
  String.join ((lines ++ ["Try 'sleep --help' for more information."]).map fun s => s ++ "\n")

def sleep (arguments : List String) (sh : Shell) : Shell :=
  match arguments.mapM sleepTime? with
  | some (t :: ts) =>
    { sh with clock := (t :: ts).foldl Duration.plus sh.clock, status := 0 }
  | _ => (sh.writeTo sh.err (Bytes.ofText (sleepComplaint arguments))).withStatus 1

def assignAll (arguments : List String) (sh : Shell) : Shell :=
  let assigned := arguments.filterMap fun s =>
    match s.toList.dropWhile (· != '=') with
    | _ :: value => some (String.ofList (s.toList.takeWhile (· != '=')), String.ofList value)
    | [] => none
  { sh with values := assigned.reverse ++ sh.values, status := 0 }

def cat (arguments : List String) (sh : Shell) : Shell :=
  if arguments.isEmpty then (sh.writeTo sh.out sh.input).withStatus 0
  else
    arguments.foldl (fun sh path =>
      match sh.files.read sh.directory path with
      | .ok b => sh.writeTo sh.out b
      | .error e =>
        let reason := if e = .isDirectory then "Is a directory" else "No such file or directory"
        (sh.writeTo sh.err (Bytes.ofText ("cat: " ++ path ++ ": " ++ reason ++ "\n"))).withStatus 1)
      (sh.withStatus 0)

def firstLines : Nat → Bytes → Bytes
  | 0, _ => []
  | _, [] => []
  | n + 1, b :: rest => b :: firstLines (if b = 10 then n else n + 1) rest

/--
Prints the first lines of a file. At a pipe it is the reader, and what it waits for may never come: it
is there up to the deadline.
-/
def headOf (lines : Nat) (path : String) (sh : Shell) : Shell :=
  match sh.files.locate sh.directory path, sh.files.stat sh.directory path with
  | .ok place, .ok (.pipe _) =>
    { sh with files := sh.files.put place (.pipe lines), clock := sh.clock.plus (sh.deadline.getD ⟨0⟩) }
  | _, .ok (.file b _) => (sh.writeTo sh.out (firstLines lines b)).withStatus 0
  | _, .ok .directory =>
    (sh.writeTo sh.err (Bytes.ofText
      ("head: error reading \x27" ++ path ++ "\x27: Is a directory\n"))).withStatus 1
  | _, _ =>
    (sh.writeTo sh.err (Bytes.ofText
      ("head: cannot open \x27" ++ path ++ "\x27 for reading: No such file or directory\n"))).withStatus 1

def linesAsked? : List String → Option (Nat × List String)
  | [] => some (10, [])
  | "-n" :: number :: rest => (Numeral.value? number.toList).map fun n => (n, rest)
  | word :: rest =>
    match word.toList with
    | '-' :: digits => (Numeral.value? digits).map fun n => (n, rest)
    | _ => some (10, word :: rest)

def head (arguments : List String) (sh : Shell) : Shell :=
  match linesAsked? arguments with
  | some (n, []) => (sh.writeTo sh.out (firstLines n sh.input)).withStatus 0
  | some (n, [path]) => sh.headOf n path
  | _ => sh.withStatus 1

def mkfifo (arguments : List String) (sh : Shell) : Shell :=
  arguments.foldl (fun sh path =>
    let refuse (reason : String) := (sh.writeTo sh.err (Bytes.ofText
      ("mkfifo: cannot create fifo \x27" ++ path ++ "\x27: " ++ reason ++ "\n"))).withStatus 1
    match sh.files.locate sh.directory path with
    | .error _ => refuse "No such file or directory"
    | .ok place =>
      match sh.files.get? place with
      | some _ => refuse "File exists"
      | none => { sh with files := sh.files.put place (.pipe 0) })
    (sh.withStatus 0)

def finish (status : ExitStatus) (sh : Shell) : Shell := { sh with ended := some status }

def exit (arguments : List String) (sh : Shell) : Shell :=
  match arguments with
  | [] => sh.finish (.exited sh.status)
  | s :: _ => sh.finish (.exited (((Numeral.value? s.toList).getD 2) % 256))

def shift (arguments : List String) (sh : Shell) : Shell :=
  let n := ((arguments.head?.map String.toList).bind Numeral.value?).getD 1
  if n ≤ sh.arguments.length then { sh with arguments := sh.arguments.drop n, status := 0 }
  else sh.finish (.exited 2)

def signal? (s : String) : Option Nat :=
  match Numeral.value? s.toList with
  | some n => some n
  | none =>
    let names := ExitStatus.signalNames
    (names.findIdx? fun n => n == s || n == "SIG" ++ s).map (· + 1)

/-- Sends a signal, which can only go to the shell itself. -/
def kill (arguments : List String) (sh : Shell) : Shell :=
  let number := match arguments with
    | ["-s", name, _] => signal? name
    | [flag, _] => signal? (String.ofList (flag.toList.drop 1))
    | [_] => some 15
    | _ => none
  match number, arguments.getLast? with
  | some n, some target =>
    if target = sh.parameter "$" then sh.finish (.signalled n) else sh.withStatus 1
  | _, _ => sh.withStatus 2

end Shell

def builtin? : String → Option (List String → Shell → Shell)
  | "echo" => some Shell.echo
  | "printf" => some Shell.printf
  | "[" => some fun arguments sh =>
    if arguments.getLast? = some "]" then sh.test arguments.dropLast else sh.withStatus 2
  | "test" => some Shell.test
  | "export" => some Shell.assignAll
  | "true" | ":" | "trap" | "umask" | "set" => some fun _ sh => sh.withStatus 0
  | "false" => some fun _ sh => sh.withStatus 1
  | "sleep" => some Shell.sleep
  | "cat" => some Shell.cat
  | "head" => some Shell.head
  | "mkfifo" => some Shell.mkfifo
  | "exit" => some Shell.exit
  | "shift" => some Shell.shift
  | "kill" => some Shell.kill
  | _ => none

end CalibratedSweep.Script
