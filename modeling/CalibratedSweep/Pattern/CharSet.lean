import CalibratedSweep.Text.Blank
import CalibratedSweep.Unicode.Alphabetic
import CalibratedSweep.Unicode.CaseFolding
import CalibratedSweep.Unicode.Category
import CalibratedSweep.Unicode.LetterCase
import CalibratedSweep.Unicode.Script

namespace CalibratedSweep.Pattern

inductive Property where
  | category (k : Unicode.Category)
  | script (name : String)
  | alphabetic
  | uppercase
  | lowercase
  | blank
  deriving DecidableEq, Repr

def Property.contains (n : Nat) : Property → Bool
  | .category k => k.contains n
  | .script name => Unicode.Script.contains name n
  | .alphabetic => Unicode.isAlphabetic (Char.ofNat n)
  | .uppercase => Unicode.uppercase.contains n
  | .lowercase => Unicode.lowercase.contains n
  | .blank => Text.isBlankCode n

inductive CharSet where
  | nothing
  | range (low high : Nat)
  | property (p : Property)
  | union (a b : CharSet)
  | inter (a b : CharSet)
  | compl (a : CharSet)
  /-- All characters that differ only in case from one of the set. -/
  | folded (a : CharSet)
  deriving DecidableEq, Repr

namespace CharSet

def contains : CharSet → Nat → Bool
  | nothing, _ => false
  | range low high, n => decide (low ≤ n ∧ n ≤ high)
  | property p, n => p.contains n
  | union a b, n => a.contains n || b.contains n
  | inter a b, n => a.contains n && b.contains n
  | compl a, n => !a.contains n
  | folded a, n => a.contains n || (Unicode.foldOrbit n).any a.contains

def any : CharSet := compl nothing

def one (c : Char) : CharSet := range c.toNat c.toNat

def diff (a b : CharSet) : CharSet := inter a (compl b)

def symmDiff (a b : CharSet) : CharSet := union (diff a b) (diff b a)

def ofList (sets : List CharSet) : CharSet := sets.foldr union nothing

def ofText (s : String) : CharSet := ofList (s.toList.map one)

def digits : CharSet := range 0x30 0x39

def upperLetters : CharSet := range 0x41 0x5A

def lowerLetters : CharSet := range 0x61 0x7A

def letters : CharSet := union upperLetters lowerLetters

def wordLetters : CharSet := union letters (union digits (one '_'))

def ofCategories (ks : List Unicode.Category) : CharSet :=
  ofList (ks.map fun k => property (.category k))

def wordChars : CharSet :=
  union (property .alphabetic) (union (ofCategories Unicode.Category.marks)
    (union (ofCategories [.nd, .pc]) (range 0x200C 0x200D)))

def containsChar (s : CharSet) (c : Char) : Bool := s.contains c.toNat

end CharSet

end CalibratedSweep.Pattern
