import CalibratedSweep.Toml.Scalar
/-!
Reads TOML documents. Values nest at most `maxDepth` deep, and so do the parts of a key. Every
reading step uses up text, so the length of the text bounds the recursion.
-/

namespace CalibratedSweep.Toml

def maxDepth : Nat := 80

/-! Keys -/

def isKeyChar (c : Char) : Bool := (decide (c.toNat < 128) && c.isAlphanum) || c == '_' || c == '-'

def simpleKey? (s : List Char) : Option (String × List Char) :=
  match s with
  | [] => none
  | c :: _ =>
    if c = '\"' ∨ c = '\'' then shortString? s
    else if isKeyChar c then some (String.ofList (s.takeWhile isKeyChar), s.dropWhile isKeyChar)
    else none

def keyParts? : Nat → List Char → Option (List String × List Char)
  | 0, _ => none
  | fuel + 1, s =>
    match simpleKey? (skipBlanks s) with
    | none => none
    | some (part, rest) =>
      match skipBlanks rest with
      | '.' :: rest => (keyParts? fuel rest).map fun (parts, rest) => (part :: parts, rest)
      | rest => some ([part], rest)

def key? (s : List Char) : Option (List String × List Char) :=
  match keyParts? (s.length + 1) s with
  | some (parts, rest) => if parts.length < maxDepth then some (parts, rest) else none
  | none => none

/-! Values -/

def skipComment (s : List Char) : List Char :=
  match s with
  | '#' :: rest => rest.dropWhile isCommentChar
  | s => s

def skipSpace? : Nat → List Char → Option (List Char)
  | 0, _ => none
  | fuel + 1, s =>
    match skipBlanks s with
    | [] => some []
    | c :: rest =>
      if c = '#' ∨ c = '\n' ∨ c = '\r' then
        match lineEnd? (skipComment (c :: rest)) with
        | some rest => skipSpace? fuel rest
        | none => none
      else some (c :: rest)

def skipSpaces? (s : List Char) : Option (List Char) := skipSpace? (s.length + 1) s

mutual

def value? (depth : Nat) : Nat → List Char → Option (Value × List Char)
  | 0, _ => none
  | fuel + 1, s =>
    match s with
    | '[' :: rest =>
      if depth ≤ 1 then none
      else (items? (depth - 1) [] fuel rest).map fun (vs, rest) => (.array vs, rest)
    | '\x7b' :: rest =>
      if depth ≤ 1 then none
      else
        match skipBlanks rest with
        | '\x7d' :: rest => some (.table .inlined [], rest)
        | rest => (fields? (depth - 1) [] fuel rest).map fun (es, rest) => (.table .inlined es, rest)
    | s => scalar? s

def items? (depth : Nat) (acc : List Value) : Nat → List Char → Option (List Value × List Char)
  | 0, _ => none
  | fuel + 1, s =>
    match skipSpaces? s with
    | none => none
    | some (']' :: rest) => some (acc.reverse, rest)
    | some s =>
      match value? depth fuel s with
      | none => none
      | some (v, rest) =>
        match skipSpaces? rest with
        | some (',' :: rest) => items? depth (v :: acc) fuel rest
        | some (']' :: rest) => some ((v :: acc).reverse, rest)
        | _ => none

def fields? (depth : Nat) (es : Entries) : Nat → List Char → Option (Entries × List Char)
  | 0, _ => none
  | fuel + 1, s =>
    match key? s with
    | some (parts, '=' :: rest) =>
      match value? depth fuel (skipBlanks rest) with
      | none => none
      | some (v, rest) =>
        match setKey parts.dropLast (parts.getLastD "") v .header es with
        | none => none
        | some es =>
          match skipBlanks rest with
          | ',' :: rest => fields? depth es fuel rest
          | '\x7d' :: rest => some (es, rest)
          | _ => none
    | _ => none

end

/-! Documents -/

/-- The table that lines with keys add to, and the tables that are finished. -/
structure Document where
  root : Entries
  path : List String
  /-- Whether the open table is one of several under the same header. -/
  isItem : Bool
  entries : Entries

namespace Document

def start : Document := ⟨[], [], false, []⟩

def append (key : String) (added : Entries) (es : Entries) : Option Entries :=
  match es.lookup key with
  | none => some (es ++ [(key, .tables [added])])
  | some (.tables items) => some (es.put key (.tables (items ++ [added])))
  | some _ => none

def close? (d : Document) : Option Entries :=
  let key := d.path.getLastD ""
  if d.path.isEmpty then some d.entries
  else if d.isItem then change false (fun _ => append key d.entries) .header d.root d.path.dropLast
  else
    change false (fun _ => insertNew key (.table .header d.entries)) .header d.root d.path.dropLast

/-- Makes room for a table: what is there already must come from the path of other headers. -/
def reserve (key : String) (es : Entries) : Option Entries :=
  match es.lookup key with
  | none => some es
  | some (.table .implied _) => some es
  | some _ => none

def reserveItem (key : String) (es : Entries) : Option Entries :=
  match es.lookup key with
  | none => some (es ++ [(key, .tables [])])
  | some (.tables _) => some es
  | some _ => none

def entriesAt (es : Entries) : List String → Entries
  | [] => es
  | key :: path =>
    match es.lookup key with
    | some (.table _ sub) => entriesAt sub path
    | some (.tables items) => entriesAt (items.getLastD []) path
    | _ => []

/-- A header in single brackets: opens its table, which may have subtables already. -/
def openTable? (d : Document) (path : List String) : Option Document := do
  let root ← d.close?
  let key := path.getLastD ""
  let root ← change false (fun _ => reserve key) .header root path.dropLast
  let found := entriesAt root path
  let root ← change false (fun _ es => some (Entries.remove es key)) .header root path.dropLast
  return ⟨root, path, false, found⟩

def openItem? (d : Document) (path : List String) : Option Document := do
  let root ← d.close?
  let key := path.getLastD ""
  let root ← change false (fun _ => reserveItem key) .header root path.dropLast
  return ⟨root, path, true, []⟩

def set? (d : Document) (parts : List String) (v : Value) : Option Document :=
  (setKey parts.dropLast (parts.getLastD "") v .header d.entries).map fun entries =>
    { d with entries }

end Document

/-- What follows the end of a line that may have a comment; the end of the text ends a line too. -/
def trailing? (s : List Char) : Option (List Char) :=
  match skipComment (skipBlanks s) with
  | [] => some []
  | s => lineEnd? s

def line? (d : Document) (s : List Char) : Option (Document × List Char) :=
  match s with
  | '[' :: '[' :: rest =>
    match key? rest with
    | some (path, ']' :: ']' :: rest) => do return (← d.openItem? path, ← trailing? rest)
    | _ => none
  | '[' :: rest =>
    match key? rest with
    | some (path, ']' :: rest) => do return (← d.openTable? path, ← trailing? rest)
    | _ => none
  | s =>
    match key? s with
    | some (parts, '=' :: rest) => do
      let (v, rest) ← value? maxDepth (2 * rest.length + 2) (skipBlanks rest)
      return (← d.set? parts v, ← trailing? rest)
    | _ => none

def linesFrom? (d : Document) : Nat → List Char → Option Document
  | 0, _ => none
  | fuel + 1, s =>
    match skipBlanks s with
    | [] => some d
    | c :: rest =>
      if c = '#' ∨ c = '\n' ∨ c = '\r' then
        match trailing? (c :: rest) with
        | some rest => linesFrom? d fuel rest
        | none => none
      else
        match line? d (c :: rest) with
        | some (d, rest) => linesFrom? d fuel rest
        | none => none

def dropMark (s : List Char) : List Char :=
  match s with
  | c :: rest => if c.toNat = 0xFEFF then rest else s
  | [] => []

def read? (text : String) : Option Value :=
  let s := dropMark text.toList
  match linesFrom? .start (s.length + 1) s with
  | some d => d.close?.map (Value.table .header)
  | none => none

end CalibratedSweep.Toml
