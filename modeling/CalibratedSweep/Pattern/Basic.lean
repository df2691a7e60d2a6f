import CalibratedSweep.Pattern.Regex
/-!
Patterns as they are written: characters, classes, groups, repetitions, alternatives, and flags
that change the meaning of what follows them. `depth` is how deep a pattern nests; patterns deeper
than `maxDepth` are refused.
-/

namespace CalibratedSweep.Pattern

inductive Flag where
  | caseInsensitive
  | multiLine
  | dotMatchesLineFeed
  | swapGreed
  | unicode
  | returnLines
  | ignoreBlanks
  deriving DecidableEq, Repr

def Flag.ofChar? : Char → Option Flag
  | 'i' => some caseInsensitive
  | 'm' => some multiLine
  | 's' => some dotMatchesLineFeed
  | 'U' => some swapGreed
  | 'u' => some unicode
  | 'R' => some returnLines
  | 'x' => some ignoreBlanks
  | _ => none

abbrev FlagChanges := List (Flag × Bool)

/-- A character of a pattern. One written as a byte, with two hexadecimal digits, may stand for a byte. -/
structure Literal where
  char : Char
  asByte : Bool
  deriving DecidableEq, Repr

inductive Anchor where
  | lineStart
  | lineEnd
  | textStart
  | textEnd
  | wordBoundary
  | noWordBoundary
  | wordStart
  | wordEnd
  | wordStartHalf
  | wordEndHalf
  deriving DecidableEq, Repr

inductive AsciiClass where
  | alnum | alpha | ascii | blank | cntrl | digit | graph | lower | print | punct | space | upper
  | word | xdigit
  deriving DecidableEq, Repr

def AsciiClass.ofName? : String → Option AsciiClass
  | "alnum" => some alnum
  | "alpha" => some alpha
  | "ascii" => some ascii
  | "blank" => some blank
  | "cntrl" => some cntrl
  | "digit" => some digit
  | "graph" => some graph
  | "lower" => some lower
  | "print" => some print
  | "punct" => some punct
  | "space" => some space
  | "upper" => some upper
  | "word" => some word
  | "xdigit" => some xdigit
  | _ => none

def AsciiClass.chars : AsciiClass → CharSet
  | alnum => .union .letters .digits
  | alpha => .letters
  | ascii => .range 0 0x7F
  | blank => .ofText "\t "
  | cntrl => .union (.range 0 0x1F) (.range 0x7F 0x7F)
  | digit => .digits
  | graph => .range 0x21 0x7E
  | lower => .lowerLetters
  | print => .range 0x20 0x7E
  | punct => .diff (.range 0x21 0x7E) (.union .letters .digits)
  | space => .union (.range 9 13) (.one ' ')
  | upper => .upperLetters
  | word => .wordLetters
  | xdigit => .union .digits (.union (.range 0x41 0x46) (.range 0x61 0x66))

inductive LetterClass where
  | digit
  | space
  | word
  deriving DecidableEq, Repr

inductive SetOp where
  | inter
  | diff
  | symmDiff
  deriving DecidableEq, Repr

inductive ClassBody where
  | nothing
  | range (low high : Literal)
  | ascii (c : AsciiClass) (negated : Bool)
  | letter (c : LetterClass) (negated : Bool)
  | property (s : CharSet) (negated : Bool)
  | bracketed (b : ClassBody) (negated : Bool)
  | union (item rest : ClassBody)
  | op (o : SetOp) (a b : ClassBody)
  deriving DecidableEq, Repr

end CalibratedSweep.Pattern

namespace CalibratedSweep

inductive Pattern where
  | empty
  | flags (changes : Pattern.FlagChanges)
  | literal (l : Pattern.Literal)
  | dot
  | anchor (a : Pattern.Anchor)
  | letter (c : Pattern.LetterClass) (negated : Bool)
  | property (s : Pattern.CharSet) (negated : Bool)
  | bracketed (b : Pattern.ClassBody) (negated : Bool)
  /-- A group sets its flags for what is in it only. -/
  | group (changes : Pattern.FlagChanges) (p : Pattern)
  | times (p : Pattern) (least : Nat) (most : Option Nat)
  | cat (p rest : Pattern)
  | alt (p rest : Pattern)
  deriving DecidableEq, Repr

namespace Pattern

/-- A list of items is one level, however long it is. -/
def ClassBody.depth : ClassBody → Nat
  | bracketed b _ => b.depth + 1
  | union a b => max (a.depth + 1) (match b with
    | union _ _ => b.depth
    | _ => b.depth + 1)
  | op _ a b => max a.depth b.depth + 1
  | _ => 0

def depth : Pattern → Nat
  | bracketed b _ => b.depth + 1
  | group _ p => p.depth + 1
  | times p _ _ => p.depth + 1
  | cat p q => max (p.depth + 1) (match q with
    | cat _ _ => q.depth
    | _ => q.depth + 1)
  | alt p q => max (p.depth + 1) (match q with
    | alt _ _ => q.depth
    | _ => q.depth + 1)
  | _ => 0

def maxDepth : Nat := 250

def catList : List Pattern → Pattern
  | [] => empty
  | [p] => p
  | p :: rest => cat p (catList rest)

def ClassBody.ofItems : List ClassBody → ClassBody
  | [] => nothing
  | [b] => b
  | b :: rest => union b (ofItems rest)

end Pattern

end CalibratedSweep
