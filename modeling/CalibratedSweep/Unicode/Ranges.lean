/-!
Sets of code points given as sorted, disjoint ranges, and the reader of their written form
(`41-5A 61-7A AA`, hexadecimal, separated by blanks). Membership is a binary search.
-/

namespace CalibratedSweep.Unicode

structure Ranges where
  bounds : Array (Nat × Nat)

namespace Ranges

def hexDigit? (c : Char) : Option Nat :=
  if '0' ≤ c ∧ c ≤ '9' then some (c.toNat - '0'.toNat)
  else if 'A' ≤ c ∧ c ≤ 'F' then some (c.toNat - 'A'.toNat + 10)
  else none

/-- What has been read of the current range: the lower end once a dash is seen, and the digits since. -/
structure Pending where
  lower : Option Nat
  number : Option Nat

def Pending.close (p : Pending) (out : Array (Nat × Nat)) : Array (Nat × Nat) :=
  match p.lower, p.number with
  | _, none => out
  | none, some n => out.push (n, n)
  | some l, some n => out.push (l, n)

def readFrom (out : Array (Nat × Nat)) (p : Pending) : List Char → Array (Nat × Nat)
  | [] => p.close out
  | c :: rest =>
    match hexDigit? c with
    | some d => readFrom out { p with number := some (p.number.getD 0 * 16 + d) } rest
    | none =>
      if c = '-' then readFrom out ⟨p.number, none⟩ rest
      else readFrom (p.close out) ⟨none, none⟩ rest

def ofText (text : String) : Ranges := ⟨readFrom #[] ⟨none, none⟩ text.toList⟩

def search (bounds : Array (Nat × Nat)) (n lo hi : Nat) : Bool :=
  if _h : lo < hi then
    let mid := (lo + hi) / 2
    match bounds[mid]? with
    | none => false
    | some (l, u) =>
      if n < l then search bounds n lo mid
      else if u < n then search bounds n (mid + 1) hi
      else true
  else false
termination_by hi - lo

def contains (r : Ranges) (n : Nat) : Bool := search r.bounds n 0 r.bounds.size

def containsChar (r : Ranges) (c : Char) : Bool := r.contains c.toNat

end Ranges

end CalibratedSweep.Unicode
