import CalibratedSweep.Text.Bytes
/-!
A tree of files, directories and pipes, and the paths that lead through it. A place is the list of
names from the root. Operations fail as those of an operating system do; opening a pipe without
anyone at its other end, which would wait for ever, fails as it does for those who will not wait.
-/

namespace CalibratedSweep

inductive OsError where
  | notFound
  | noPeer
  | badFormat
  | permissionDenied
  | alreadyExists
  | notDirectory
  | isDirectory
  | noSpace
  | brokenPipe
  | nameTooLong
  | nulInPath
  | nulInArgument
  | notUtf8
  deriving DecidableEq, Repr

def OsError.message : OsError → String
  | .notFound => "No such file or directory (os error 2)"
  | .noPeer => "No such device or address (os error 6)"
  | .badFormat => "Exec format error (os error 8)"
  | .permissionDenied => "Permission denied (os error 13)"
  | .alreadyExists => "File exists (os error 17)"
  | .notDirectory => "Not a directory (os error 20)"
  | .isDirectory => "Is a directory (os error 21)"
  | .noSpace => "No space left on device (os error 28)"
  | .brokenPipe => "Broken pipe (os error 32)"
  | .nameTooLong => "File name too long (os error 36)"
  | .nulInPath => "file name contained an unexpected NUL byte"
  | .nulInArgument => "nul byte found in provided data"
  | .notUtf8 => "stream did not contain valid UTF-8"

abbrev Place := List String

inductive Entry where
  | file (content : Bytes) (executable : Bool)
  | directory
  /-- A named pipe, whose reader goes away once it has taken that many lines. -/
  | pipe (lines : Nat)
  deriving DecidableEq, Repr

def Entry.isDirectory : Entry → Bool
  | .directory => true
  | .file _ _ | .pipe _ => false

structure Files where
  entries : List (Place × Entry)
  deriving Repr

namespace Files

def empty : Files := ⟨[]⟩

def get? (f : Files) (p : Place) : Option Entry :=
  if p.isEmpty then some .directory else f.entries.lookup p

def putIn (p : Place) (e : Entry) : List (Place × Entry) → List (Place × Entry)
  | [] => [(p, e)]
  | (q, old) :: rest => if q = p then (p, e) :: rest else (q, old) :: putIn p e rest

def put (f : Files) (p : Place) (e : Entry) : Files := ⟨putIn p e f.entries⟩

def isDirectory (f : Files) (p : Place) : Bool := (f.get? p).any Entry.isDirectory

end Files

/-- A path taken apart. A relative path keeps a leading `.`; other dots and empty names are dropped. -/
structure Path where
  absolute : Bool
  names : List String
  deriving DecidableEq, Repr

namespace Path

def splitSlashes (name : List Char) : List Char → List String
  | [] => [String.ofList name.reverse]
  | c :: rest =>
    if c = '/' then String.ofList name.reverse :: splitSlashes [] rest
    else splitSlashes (c :: name) rest

def ofText (text : String) : Path :=
  let parts := splitSlashes [] text.toList
  let kept := parts.filter fun n => n ≠ "" && n ≠ "."
  let absolute := text.startsWith "/"
  ⟨absolute, if !absolute && parts.head? = some "." then "." :: kept else kept⟩

def parent? (p : Path) : Option Path :=
  if p.names.isEmpty then none else some { p with names := p.names.dropLast }

def isBlank (p : Path) : Bool := !p.absolute && p.names.isEmpty

end Path

namespace Files

/--
Follows names from a place. All but the last must be directories that exist; of the last only its
parent must.
-/
def follow (f : Files) (place : Place) : List String → Except OsError Place
  | [] => .ok place
  | name :: rest =>
    match f.get? place with
    | none => .error .notFound
    | some (.file _ _) => .error .notDirectory
    | some (.pipe _) => .error .notDirectory
    | some .directory =>
      if 255 < name.utf8ByteSize then .error .nameTooLong
      else if name = "." then follow f place rest
      else if name = ".." then follow f place.dropLast rest
      else follow f (place ++ [name]) rest

def locate (f : Files) (base : Place) (text : String) : Except OsError Place :=
  if text.isEmpty then .error .notFound
  else if text.contains '\x00' then .error .nulInPath
  else
    let p := Path.ofText text
    let names := if text.endsWith "/" then p.names ++ ["."] else p.names
    f.follow (if p.absolute then [] else base) names

def stat (f : Files) (base : Place) (text : String) : Except OsError Entry :=
  match f.locate base text with
  | .error e => .error e
  | .ok place =>
    match f.get? place with
    | none => .error .notFound
    | some e => .ok e

def read (f : Files) (base : Place) (text : String) : Except OsError Bytes :=
  match f.stat base text with
  | .error e => .error e
  | .ok .directory => .error .isDirectory
  | .ok (.pipe _) => .error .noPeer
  | .ok (.file content _) => .ok content

def readText (f : Files) (base : Place) (text : String) : Except OsError String :=
  match f.read base text with
  | .error e => .error e
  | .ok content =>
    match Bytes.text? content with
    | some s => .ok s
    | none => .error .notUtf8

def openFile (f : Files) (base : Place) (text : String) (truncate : Bool) :
    Except OsError (Files × Place) :=
  match f.locate base text with
  | .error e => .error e
  | .ok place =>
    match f.get? place with
    | some .directory => .error .isDirectory
    | some (.pipe _) => .error .noPeer
    | some (.file content x) => .ok (f.put place (.file (if truncate then [] else content) x), place)
    | none => .ok (f.put place (.file [] false), place)

def write (f : Files) (base : Place) (text : String) (content : Bytes) : Except OsError Files :=
  match f.openFile base text true with
  | .error e => .error e
  | .ok (f, place) =>
    match f.get? place with
    | some (.file _ x) => .ok (f.put place (.file content x))
    | _ => .ok f

def makeDirectory (f : Files) (base : Place) (p : Path) : Except OsError Files :=
  match f.follow (if p.absolute then [] else base) p.names with
  | .error e => .error e
  | .ok place =>
    match f.get? place with
    | some _ => .error .alreadyExists
    | none => .ok (f.put place .directory)

def isDirectoryPath (f : Files) (base : Place) (p : Path) : Bool :=
  match f.follow (if p.absolute then [] else base) p.names with
  | .error _ => false
  | .ok place => f.isDirectory place

/-- A directory that must be there in the end: one that exists already is as good as a new one. -/
def settle (f : Files) (base : Place) (p : Path) : Except OsError Unit × Files :=
  match f.makeDirectory base p with
  | .ok f => (.ok (), f)
  | .error e => if f.isDirectoryPath base p then (.ok (), f) else (.error e, f)

/-- Creates a directory and those above it; names are the path's names backwards. -/
def makeDirectories (f : Files) (base : Place) (absolute : Bool) :
    List String → Except OsError Unit × Files
  | [] => (.ok (), f)
  | name :: above =>
    let p : Path := ⟨absolute, (name :: above).reverse⟩
    match f.makeDirectory base p with
    | .error .notFound =>
      match makeDirectories f base absolute above with
      | (.error e, f) => (.error e, f)
      | (.ok (), f) => f.settle base p
    | _ => f.settle base p

def makeParent (f : Files) (base : Place) (text : String) : Except OsError Unit × Files :=
  match (Path.ofText text).parent? with
  | none => (.ok (), f)
  | some p =>
    if p.isBlank then (.ok (), f)
    else if text.contains '\x00' then (.error .nulInPath, f)
    else f.makeDirectories base p.absolute p.names.reverse

end Files

/-- An open file: writes go to a position that moves along, or always to the end. -/
structure Handle where
  place : Place
  position : Option Nat
  deriving DecidableEq, Repr

namespace Handle

/-- `content` with `added` from position `n` on; a gap is filled with zeros. -/
def overwrite (content added : Bytes) (n : Nat) : Bytes :=
  content.take n ++ List.replicate (n - content.length) 0 ++ added ++ content.drop (n + added.length)

def write (h : Handle) (f : Files) (added : Bytes) : Files × Handle :=
  match f.get? h.place with
  | some (.file content x) =>
    match h.position with
    | none => (f.put h.place (.file (content ++ added) x), h)
    | some n =>
      (f.put h.place (.file (overwrite content added n) x),
        { h with position := some (n + added.length) })
  | _ => (f, h)

end Handle

end CalibratedSweep
