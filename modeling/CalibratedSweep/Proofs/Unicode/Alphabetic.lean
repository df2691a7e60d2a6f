import CalibratedSweep.Text.Blank
import CalibratedSweep.Unicode.Alphabetic
/-!
Blank characters are not alphabetic. What a search in ranges finds is in one of them, so it is enough to
compare each range of the table with each blank character.
-/

namespace CalibratedSweep.Unicode

namespace Ranges

theorem exists_of_search {bounds : Array (Nat × Nat)} {n lo hi : Nat}
    (h : search bounds n lo hi = true) : ∃ r ∈ bounds.toList, r.1 ≤ n ∧ n ≤ r.2 := by
  fun_induction search bounds n lo hi with
  | case1 | case5 => cases h
  | case2 lo hi hlt mid l u hsome hl ih => exact ih h
  | case3 lo hi hlt mid l u hsome hl hu ih => exact ih h
  | case4 lo hi hlt mid l u hsome hl hu =>
    exact ⟨(l, u), Array.mem_toList_iff.mpr (Array.mem_of_getElem? hsome), Nat.le_of_not_lt hl,
      Nat.le_of_not_lt hu⟩

def Pending.last (p : Pending) : List (Nat × Nat) :=
  match p.number with
  | none => []
  | some n => [(p.lower.getD n, n)]

def listed (p : Pending) : List Char → List (Nat × Nat)
  | [] => p.last
  | c :: rest =>
    match hexDigit? c with
    | some d => listed { p with number := some (p.number.getD 0 * 16 + d) } rest
    | none =>
      if c = '-' then listed ⟨p.number, none⟩ rest
      else p.last ++ listed ⟨none, none⟩ rest

theorem toList_close (p : Pending) (out : Array (Nat × Nat)) :
    (p.close out).toList = out.toList ++ p.last := by
  obtain ⟨_ | l, _ | n⟩ := p <;> simp [Pending.close, Pending.last]

theorem toList_readFrom (out : Array (Nat × Nat)) (p : Pending) (cs : List Char) :
    (readFrom out p cs).toList = out.toList ++ listed p cs := by
  induction cs generalizing out p with
  | nil => exact toList_close p out
  | cons c cs ih =>
    unfold readFrom listed
    cases hexDigit? c with
    | some d => exact ih ..
    | none =>
      dsimp only
      split
      · exact ih ..
      · rw [ih, toList_close, List.append_assoc]

end Ranges

def Misses (n : Nat) (r : Nat × Nat) : Bool := Nat.blt n r.1 || Nat.blt r.2 n

def blankCodes : List Nat :=
  [0x85, 0xA0, 0x1680, 0x2000, 0x2001, 0x2002, 0x2003, 0x2004, 0x2005, 0x2006, 0x2007, 0x2008, 0x2009,
    0x200A, 0x2028, 0x2029, 0x202F, 0x205F, 0x3000]

theorem mem_blankCodes {n : Nat} (h : Text.isBlankCode n = true) (hn : 128 ≤ n) : n ∈ blankCodes := by
  simp only [Text.isBlankCode, Bool.or_eq_true, Bool.and_eq_true, decide_eq_true_eq, beq_iff_eq] at h
  simp only [blankCodes, List.mem_cons, List.not_mem_nil, or_false]
  omega

set_option maxRecDepth 100000 in
theorem alphabetic_misses_blanks :
    ∀ r ∈ alphabetic.bounds.toList, ∀ n ∈ blankCodes, Misses n r = true := by
  rw [alphabetic, Ranges.ofText, Ranges.toList_readFrom]
  have hchars {s : String} {cs : List Char} (h : s = String.ofList cs) : s.toList = cs := by
    rw [h, String.toList_ofList]
  rw [hchars rfl]
  decide +kernel

theorem not_isAlphabetic_of_isBlank {c : Char} (h : Text.isBlank c = true) : isAlphabetic c = false := by
  unfold isAlphabetic
  split
  · rename_i hsmall
    have hascii : ∀ n < 128, Text.isBlankCode n = true → (Char.ofNat n).isAlpha = false := by decide
    rw [← Char.ofNat_toNat c]
    exact hascii _ hsmall h
  · rename_i hlarge
    rw [Bool.eq_false_iff]
    intro hfound
    obtain ⟨r, hr, hlo, hhi⟩ := Ranges.exists_of_search hfound
    have hmiss := alphabetic_misses_blanks r hr _ (mem_blankCodes h (Nat.le_of_not_lt hlarge))
    simp only [Misses, Bool.or_eq_true, Nat.blt_eq] at hmiss
    omega

theorem isAlphabetic_of_isAlpha {c : Char} (h : c.isAlpha = true) : isAlphabetic c = true := by
  have hsmall : c.toNat < 128 := by
    have hle : c.val ≤ 'z'.val := by
      obtain hupper | hlower := (Bool.or_eq_true c.isUpper c.isLower).mp h
      · exact UInt32.le_trans (of_decide_eq_true hupper).2 (by decide)
      · exact of_decide_eq_true (Bool.and_eq_true_iff.mp hlower).2
    exact Nat.lt_of_le_of_lt (UInt32.le_iff_toNat_le.mp hle) (by decide)
  rw [isAlphabetic, if_pos hsmall, h]

theorem not_isBlank_of_isAlpha {c : Char} (h : c.isAlpha = true) : Text.isBlank c = false := by
  rw [Bool.eq_false_iff]
  intro hblank
  have hnot := not_isAlphabetic_of_isBlank hblank
  rw [isAlphabetic_of_isAlpha h] at hnot
  cases hnot

theorem not_isAlphabetic_of_isDigit {c : Char} (h : c.isDigit = true) : isAlphabetic c = false := by
  have hascii : ∀ n < 128, (Char.ofNat n).isDigit = true → (Char.ofNat n).isAlpha = false := by decide
  have hsmall : c.toNat < 128 := by
    simp only [Char.isDigit, Bool.and_eq_true, decide_eq_true_eq] at h
    exact Nat.lt_of_le_of_lt (UInt32.le_iff_toNat_le.mp h.2) (by decide)
  rw [← Char.ofNat_toNat c] at h
  rw [isAlphabetic, if_pos hsmall, ← Char.ofNat_toNat c]
  exact hascii _ hsmall h

end CalibratedSweep.Unicode
