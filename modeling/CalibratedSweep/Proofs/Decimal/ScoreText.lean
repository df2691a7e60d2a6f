import CalibratedSweep.Decimal.Layout
import CalibratedSweep.Proofs.Text.Numeral

namespace CalibratedSweep.Decimal

def isScoreChar (c : Char) : Bool := c.isDigit || ['.', '-', 'i', 'n', 'f', 'N', 'a'].contains c

theorem toNat_lt_of_isScoreChar {c : Char} (h : isScoreChar c = true) : c.toNat < 128 := by
  rw [isScoreChar, Bool.or_eq_true] at h
  obtain h | h := h
  · simp only [Char.isDigit, Bool.and_eq_true, decide_eq_true_eq, UInt32.le_iff_toNat_le] at h
    have hhi : c.toNat ≤ 57 := h.2
    omega
  · have hall : ['.', '-', 'i', 'n', 'f', 'N', 'a'].all (·.toNat < 128) = true := rfl
    exact of_decide_eq_true (List.all_eq_true.mp hall c (List.contains_iff_mem.mp h))

theorem isDigit_of_mem_zeros {n : Nat} {c : Char} (h : c ∈ zeros n) : c.isDigit = true := by
  rw [List.eq_of_mem_replicate h]; rfl

theorem isDigit_or_point_of_mem_positional {s : Scientific} {c : Char} (h : c ∈ s.positional []) :
    c.isDigit = true ∨ c = '.' := by
  unfold Scientific.positional at h
  split at h
  · rw [List.append_nil, List.mem_append] at h
    exact .inl (h.elim Numeral.isDigit_of_mem_digits isDigit_of_mem_zeros)
  · dsimp only at h
    split at h
    · rw [List.mem_append, List.mem_cons] at h
      obtain h | rfl | h := h
      · exact .inl (Numeral.isDigit_of_mem_digits (List.mem_of_mem_take h))
      · exact .inr rfl
      · exact .inl (Numeral.isDigit_of_mem_digits (List.mem_of_mem_drop h))
    · simp only [List.mem_append, List.mem_cons, List.not_mem_nil, or_false] at h
      obtain ((rfl | rfl) | h) | h := h
      · exact .inl rfl
      · exact .inr rfl
      · exact .inl (isDigit_of_mem_zeros h)
      · exact .inl (Numeral.isDigit_of_mem_digits h)

theorem isDigit_or_point_of_mem_plain {b : Binary} {c : Char} (h : c ∈ plain.digits b) :
    c.isDigit = true ∨ c = '.' := by
  unfold Layout.digits at h
  split at h
  · rw [List.mem_singleton.mp h]
    exact .inl rfl
  · exact isDigit_or_point_of_mem_positional h

theorem isScoreChar_of_mem_plain {b : Binary} {c : Char} (h : c ∈ plain.digits b) :
    isScoreChar c = true := by
  obtain hdigit | rfl := isDigit_or_point_of_mem_plain h
  · rw [isScoreChar, hdigit, Bool.true_or]
  · rfl

theorem isScoreChar_of_mem_scoreText {x : Float} {c : Char} (h : c ∈ (scoreText x).toList) :
    isScoreChar c = true := by
  have hsign : ∀ c ∈ (if signBit x then ['-'] else []), isScoreChar c = true := by
    split
    · intro c hc; rw [List.mem_singleton.mp hc]; rfl
    · simp
  have hinf : ∀ c ∈ ['i', 'n', 'f'], isScoreChar c = true := List.all_eq_true.mp rfl
  have hnan : ∀ c ∈ ['N', 'a', 'N'], isScoreChar c = true := List.all_eq_true.mp rfl
  rw [scoreText, String.toList_ofList, Layout.text] at h
  split at h
  · rw [List.mem_append] at h
    exact h.elim (hsign c) isScoreChar_of_mem_plain
  · split at h
    · rw [List.mem_append] at h
      exact h.elim (hsign c) (hinf c)
    · exact hnan c h

end CalibratedSweep.Decimal
