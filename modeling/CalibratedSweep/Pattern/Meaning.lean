import CalibratedSweep.Pattern.Reader
/-!
What a pattern matches, under the flags in force. Flags set in the middle of a group hold for the
rest of the group, later alternatives included. With Unicode off, what would match parts of
characters has no meaning: a negated class, the dot, a property and a byte past ASCII. A pattern
whose repetitions multiply to too large an expression is refused as well.
-/

namespace CalibratedSweep.Pattern

structure Flags where
  caseInsensitive : Bool
  multiLine : Bool
  dotMatchesLineFeed : Bool
  unicode : Bool
  returnLines : Bool
  deriving DecidableEq, Repr

namespace Flags

def standard : Flags := ⟨false, false, false, true, false⟩

def set (f : Flags) (flag : Flag) (on : Bool) : Flags :=
  match flag with
  | .caseInsensitive => { f with caseInsensitive := on }
  | .multiLine => { f with multiLine := on }
  | .dotMatchesLineFeed => { f with dotMatchesLineFeed := on }
  | .unicode => { f with unicode := on }
  | .returnLines => { f with returnLines := on }
  | .swapGreed | .ignoreBlanks => f

def change (f : Flags) (changes : FlagChanges) : Flags :=
  changes.foldl (fun f c => f.set c.1 c.2) f

def asciiChars : CharSet := .range 0 0x7F

def fold (f : Flags) (s : CharSet) : CharSet :=
  if f.caseInsensitive then if f.unicode then .folded s else .inter (.folded s) asciiChars else s

def negate? (f : Flags) (negated : Bool) (s : CharSet) : Option CharSet :=
  if negated then if f.unicode then some (.compl s) else none else some s

def letterSet (f : Flags) (c : LetterClass) : CharSet :=
  match c with
  | .digit => if f.unicode then .property (.category .nd) else .digits
  | .space => if f.unicode then .property .blank else AsciiClass.space.chars
  | .word => if f.unicode then .wordChars else .wordLetters

def letter? (f : Flags) (c : LetterClass) (negated : Bool) : Option CharSet :=
  f.negate? negated (f.letterSet c)

def property? (f : Flags) (s : CharSet) (negated : Bool) : Option CharSet :=
  if f.unicode then f.negate? negated (f.fold s) else none

def combine (o : SetOp) (a b : CharSet) : CharSet :=
  match o with
  | .inter => .inter a b
  | .diff => .diff a b
  | .symmDiff => .symmDiff a b

def body? (f : Flags) : ClassBody → Option CharSet
  | .nothing => some .nothing
  | .range a b =>
    if f.unicode || decide (a.char.toNat < 128 ∧ b.char.toNat < 128) then
      some (.range a.char.toNat b.char.toNat)
    else none
  | .ascii c negated => f.negate? negated (f.fold c.chars)
  | .letter c negated => f.letter? c negated
  | .property s negated => f.property? s negated
  | .bracketed b negated => (body? f b).bind fun s => f.negate? negated (f.fold s)
  | .union a b =>
    match body? f a, body? f b with
    | some s, some t => some (.union s t)
    | _, _ => none
  | .op o a b =>
    match body? f a, body? f b with
    | some s, some t => some (combine o (f.fold s) (f.fold t))
    | _, _ => none

def literal? (f : Flags) (l : Literal) : Option CharSet :=
  if f.unicode then some (f.fold (.one l.char))
  else if l.char.toNat < 128 then some (f.fold (.one l.char))
  else if l.asByte then none
  else some (.one l.char)

def dot? (f : Flags) : Option CharSet :=
  if !f.unicode then none
  else if f.dotMatchesLineFeed then some .any
  else if f.returnLines then some (.compl (.ofText "\r\n"))
  else some (.compl (.one '\n'))

def look (f : Flags) (a : Anchor) : Look :=
  let words : WordKind := if f.unicode then .unicode else .ascii
  match a with
  | .lineStart =>
    if f.multiLine then if f.returnLines then .returnLineStart else .lineStart else .textStart
  | .lineEnd => if f.multiLine then if f.returnLines then .returnLineEnd else .lineEnd else .textEnd
  | .textStart => .textStart
  | .textEnd => .textEnd
  | .wordBoundary => .wordBoundary words
  | .noWordBoundary => .noWordBoundary words
  | .wordStart => .wordStart words
  | .wordEnd => .wordEnd words
  | .wordStartHalf => .wordStartHalf words
  | .wordEndHalf => .wordEndHalf words

end Flags

/-- The expression of a pattern, and the flags in force after it. -/
def meaning? : Pattern → Flags → Option (Regex × Flags)
  | empty, f => some (.empty, f)
  | flags changes, f => some (.empty, f.change changes)
  | literal l, f => (f.literal? l).map fun s => (.one s, f)
  | dot, f => f.dot?.map fun s => (.one s, f)
  | anchor a, f => some (.look (f.look a), f)
  | letter c negated, f => (f.letter? c negated).map fun s => (.one s, f)
  | property s negated, f => (f.property? s negated).map fun s => (.one s, f)
  | bracketed b negated, f =>
    ((f.body? b).bind fun s => f.negate? negated (f.fold s)).map fun s => (.one s, f)
  | group changes p, f => (p.meaning? (f.change changes)).map fun (r, _) => (r, f)
  | times p least most, f => (p.meaning? f).map fun (r, f) => (.times r least most, f)
  | cat p q, f =>
    match p.meaning? f with
    | none => none
    | some (a, f) => (q.meaning? f).map fun (b, f) => (.cat a b, f)
  | alt p q, f =>
    match p.meaning? f with
    | none => none
    | some (a, f) => (q.meaning? f).map fun (b, f) => (.alt a b, f)

/-- Roughly the bytes of an automaton for the set. -/
def CharSet.weight : CharSet → Nat
  | nothing => 0
  | range _ high => if high < 128 then 8 else 160
  | property _ => 24000
  | union a b => a.weight + b.weight
  | inter a b => a.weight + b.weight
  | compl a => a.weight + 400
  | folded a => 2 * a.weight

/-- Roughly the bytes of an automaton for the expression, where repetitions are copies. -/
def Regex.weight : Regex → Nat
  | empty => 0
  | one s => 32 + s.weight
  | look _ => 32
  | cat a b => a.weight + b.weight
  | alt a b => a.weight + b.weight + 32
  | times r least most => (r.weight + 32) * max (most.getD least) 1

def maxWeight : Nat := 10485760

def compile? (text : String) : Option Regex :=
  match (read? text).bind fun p => p.meaning? .standard with
  | some (r, _) => if r.weight ≤ maxWeight then some r else none
  | none => none

def found (r : Regex) (text : String) : Bool := r.search text.toList

end CalibratedSweep.Pattern
