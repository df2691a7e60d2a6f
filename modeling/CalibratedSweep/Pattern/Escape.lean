import CalibratedSweep.Pattern.Basic
import CalibratedSweep.Pattern.PropertyName
/-!
Escapes: what a backslash and the characters after it stand for. In patterns that ignore blanks,
blanks and comments may stand within longer escapes.
-/

namespace CalibratedSweep.Pattern

def skipBlanks (inComment : Bool) : List Char → List Char
  | [] => []
  | c :: rest =>
    if inComment then skipBlanks (c != '\n') rest
    else if Text.isBlank c then skipBlanks false rest
    else if c = '#' then skipBlanks true rest
    else c :: rest

/-- The next place that matters: in a pattern that ignores blanks, the first without one. -/
def skip (ignoreBlanks : Bool) (s : List Char) : List Char :=
  if ignoreBlanks then skipBlanks false s else s

/-- At most `count` characters of a kind, with what may be skipped after each, and the rest. -/
def run (ignoreBlanks : Bool) (p : Char → Bool) : Nat → List Char → List Char × List Char
  | 0, s => ([], s)
  | _, [] => ([], [])
  | count + 1, c :: rest =>
    if p c then
      let (taken, rest) := run ignoreBlanks p count (skip ignoreBlanks rest)
      (c :: taken, rest)
    else ([], c :: rest)

def hexDigit? (c : Char) : Option Nat :=
  if '0' ≤ c ∧ c ≤ '9' then some (c.toNat - '0'.toNat)
  else if 'a' ≤ c ∧ c ≤ 'f' then some (c.toNat - 'a'.toNat + 10)
  else if 'A' ≤ c ∧ c ≤ 'F' then some (c.toNat - 'A'.toNat + 10)
  else none

def isHex (c : Char) : Bool := (hexDigit? c).isSome

def hexChar? (ds : List Char) : Option Char :=
  let n := ds.foldl (fun n c => n * 16 + (hexDigit? c).getD 0) 0
  if n < 0xD800 ∨ (0xDFFF < n ∧ n < 0x110000) then some (Char.ofNat n) else none

inductive Primitive where
  | literal (l : Literal)
  | anchor (a : Anchor)
  | letter (c : LetterClass) (negated : Bool)
  | property (s : CharSet) (negated : Bool)

def hexBraces? (x : Bool) (s : List Char) : Option (Char × List Char) :=
  match run x isHex s.length (skip x s) with
  | (ds, '\x7d' :: rest) =>
    if ds.isEmpty then none else (hexChar? ds).map fun c => (c, skip x rest)
  | _ => none

/-- A code point in hexadecimal: `width` digits, or any number of them in braces. -/
def hex? (x : Bool) (width : Nat) (s : List Char) : Option (Primitive × List Char) :=
  match skip x s with
  | '\x7b' :: rest => (hexBraces? x rest).map fun (c, rest) => (.literal ⟨c, false⟩, rest)
  | s =>
    let (ds, rest) := run x isHex width s
    if ds.length = width then
      (hexChar? ds).map fun c => (.literal ⟨c, width == 2⟩, skip x rest)
    else none

def property? (x negated : Bool) (s : List Char) : Option (Primitive × List Char) :=
  match skip x s with
  | [] => none
  | '\x7b' :: rest =>
    match run x (· != '\x7d') s.length (skip x rest) with
    | (name, '\x7d' :: rest) =>
      (PropertyName.read? name).map fun (set, differs) => (.property set (negated != differs), rest)
    | _ => none
  | c :: rest =>
    if c = '\\' then none
    else (PropertyName.alone? [c]).map fun set => (.property set negated, skip x rest)

def boundary? : String → Option Anchor
  | "start" => some .wordStart
  | "end" => some .wordEnd
  | "start-half" => some .wordStartHalf
  | "end-half" => some .wordEndHalf
  | _ => none

def isBoundaryChar (c : Char) : Bool := c.isAlpha || c == '-'

/-- A word boundary, of the kind that braces may name. Other braces count repetitions. -/
def wordBoundary? (x : Bool) (s : List Char) : Option (Primitive × List Char) :=
  match s with
  | '\x7b' :: rest =>
    match skip x rest with
    | [] => none
    | c :: more =>
      if isBoundaryChar c then
        match run x isBoundaryChar s.length (c :: more) with
        | (name, '\x7d' :: rest) => (boundary? (String.ofList name)).map fun a => (.anchor a, rest)
        | _ => none
      else some (.anchor .wordBoundary, s)
  | s => some (.anchor .wordBoundary, s)

def plainLiteral (c : Char) : Primitive := .literal ⟨c, false⟩

def controlChar? : Char → Option Char
  | 'a' => some (Char.ofNat 7)
  | 'f' => some (Char.ofNat 12)
  | 't' => some '\t'
  | 'n' => some '\n'
  | 'r' => some '\r'
  | 'v' => some (Char.ofNat 11)
  | _ => none

def letterClass? : Char → Option (LetterClass × Bool)
  | 'd' => some (.digit, false)
  | 'D' => some (.digit, true)
  | 's' => some (.space, false)
  | 'S' => some (.space, true)
  | 'w' => some (.word, false)
  | 'W' => some (.word, true)
  | _ => none

def escapedAnchor? : Char → Option Anchor
  | 'A' => some .textStart
  | 'z' => some .textEnd
  | 'B' => some .noWordBoundary
  | '<' => some .wordStart
  | '>' => some .wordEnd
  | _ => none

/-- The escape after a backslash. ASCII characters that are neither letter nor digit stand for themselves. -/
def escape? (x : Bool) : List Char → Option (Primitive × List Char)
  | [] => none
  | 'x' :: rest => hex? x 2 rest
  | 'u' :: rest => hex? x 4 rest
  | 'U' :: rest => hex? x 8 rest
  | 'p' :: rest => property? x false rest
  | 'P' :: rest => property? x true rest
  | 'b' :: rest => wordBoundary? x rest
  | c :: rest =>
    match letterClass? c, escapedAnchor? c, controlChar? c with
    | some (k, negated), _, _ => some (.letter k negated, rest)
    | _, some a, _ => some (.anchor a, rest)
    | _, _, some d => some (plainLiteral d, rest)
    | none, none, none =>
      if decide (c.toNat < 128) && !c.isAlphanum then some (plainLiteral c, rest) else none

end CalibratedSweep.Pattern
