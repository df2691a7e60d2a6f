import CalibratedSweep.Pattern.CharSet
/-!
Regular expressions over characters, with conditions on the place between two characters. A search
reads the text once and keeps the expressions that have yet to be matched; each character turns an
expression into those that remain after it.
-/

namespace CalibratedSweep.Pattern

inductive WordKind where
  | unicode
  | ascii
  deriving DecidableEq, Repr

def WordKind.chars : WordKind → CharSet
  | .unicode => .wordChars
  | .ascii => .wordLetters

inductive Look where
  | textStart
  | textEnd
  | lineStart
  | lineEnd
  /-- Line starts and ends where a carriage return, alone or before a line feed, ends a line too. -/
  | returnLineStart
  | returnLineEnd
  | wordBoundary (k : WordKind)
  | noWordBoundary (k : WordKind)
  | wordStart (k : WordKind)
  | wordEnd (k : WordKind)
  /-- No word character before the place, or none after it. -/
  | wordStartHalf (k : WordKind)
  | wordEndHalf (k : WordKind)
  deriving DecidableEq, Repr

/-- A place between two characters; at the ends of the text one of them is missing. -/
structure Gap where
  before : Option Char
  after : Option Char

def Gap.wordBefore (g : Gap) (k : WordKind) : Bool := g.before.any k.chars.containsChar

def Gap.wordAfter (g : Gap) (k : WordKind) : Bool := g.after.any k.chars.containsChar

def Look.holds (g : Gap) : Look → Bool
  | .textStart => g.before.isNone
  | .textEnd => g.after.isNone
  | .lineStart => g.before.isNone || g.before == some '\n'
  | .lineEnd => g.after.isNone || g.after == some '\n'
  | .returnLineStart =>
    g.before.isNone || g.before == some '\n' || (g.before == some '\r' && g.after != some '\n')
  | .returnLineEnd =>
    g.after.isNone || g.after == some '\r' || (g.after == some '\n' && g.before != some '\r')
  | .wordBoundary k => g.wordBefore k != g.wordAfter k
  | .noWordBoundary k => g.wordBefore k == g.wordAfter k
  | .wordStart k => !g.wordBefore k && g.wordAfter k
  | .wordEnd k => g.wordBefore k && !g.wordAfter k
  | .wordStartHalf k => !g.wordBefore k
  | .wordEndHalf k => !g.wordAfter k

inductive Regex where
  | empty
  | one (s : CharSet)
  | look (l : Look)
  | cat (a b : Regex)
  | alt (a b : Regex)
  | times (r : Regex) (least : Nat) (most : Option Nat)
  deriving DecidableEq, Repr

namespace Regex

def nullable (g : Gap) : Regex → Bool
  | empty => true
  | one _ => false
  | look l => l.holds g
  | cat a b => a.nullable g && b.nullable g
  | alt a b => a.nullable g || b.nullable g
  | times r least _ => least == 0 || r.nullable g

/-- `a` and then `b`, where nothing is left to do for an empty `a`. -/
def after (a b : Regex) : Regex :=
  match a with
  | empty => b
  | a => cat a b

def mayRepeat : Option Nat → Bool
  | some 0 => false
  | _ => true

/--
What remains to be matched after the character `c`, one expression per way of matching it. A
repetition that matches the empty text here may stand for any number of those still required.
-/
def steps (before : Option Char) (c : Char) : Regex → List Regex
  | empty => []
  | one s => if s.containsChar c then [empty] else []
  | look _ => []
  | cat a b =>
    (a.steps before c).map (after · b) ++
      if a.nullable ⟨before, some c⟩ then b.steps before c else []
  | alt a b => a.steps before c ++ b.steps before c
  | times r least most =>
    if mayRepeat most then
      let least := if r.nullable ⟨before, some c⟩ then 0 else least - 1
      (r.steps before c).map (after · (times r least (most.map (· - 1))))
    else []

def searchFrom (r : Regex) (before : Option Char) (begun : List Regex) : List Char → Bool
  | [] => (r :: begun).any (nullable ⟨before, none⟩)
  | c :: rest =>
    (r :: begun).any (nullable ⟨before, some c⟩) ||
      searchFrom r (some c) ((r :: begun).flatMap (steps before c)).eraseDups rest

def search (r : Regex) (text : List Char) : Bool := searchFrom r none [] text

end Regex

end CalibratedSweep.Pattern
