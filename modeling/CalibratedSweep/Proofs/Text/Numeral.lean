import CalibratedSweep.Proofs.Text.Lines
import CalibratedSweep.Text.Numeral

namespace CalibratedSweep

namespace Text

theorem isBlank_of_isDigit {c : Char} (h : c.isDigit) : isBlank c = false := by
  simp only [Char.isDigit, Bool.and_eq_true, decide_eq_true_eq, UInt32.le_iff_toNat_le] at h
  obtain ⟨hlo, hhi⟩ := h
  have hlo' : 48 ≤ c.toNat := hlo
  have hhi' : c.toNat ≤ 57 := hhi
  simp only [isBlank, isBlankCode, Bool.or_eq_false_iff, Bool.and_eq_false_iff, beq_eq_false_iff_ne,
    decide_eq_false_iff_not]
  omega

end Text

namespace Numeral

theorem digit?_of_isDigit {c : Char} (h : c.isDigit) : digit? c = some (c.toNat - '0'.toNat) := by
  simp only [Char.isDigit, Bool.and_eq_true, decide_eq_true_eq] at h
  exact if_pos h

theorem valueFrom?_of_isDigit {s : List Char} (h : ∀ c ∈ s, c.isDigit) (value : Nat) :
    valueFrom? value s = some (Nat.ofDigitChars 10 s value) := by
  induction s generalizing value with
  | nil => simp [valueFrom?]
  | cons c s ih =>
    rw [List.forall_mem_cons] at h
    rw [valueFrom?, digit?_of_isDigit h.1, Nat.ofDigitChars_cons, Nat.mul_comm]
    exact ih h.2 _

theorem isDigit_of_mem_digits {n : Nat} {c : Char} (h : c ∈ digits n) : c.isDigit :=
  Nat.isDigit_of_mem_toDigits (by decide) (by decide) h

theorem valueFrom?_digits (n : Nat) : valueFrom? 0 (digits n) = some n := by
  rw [valueFrom?_of_isDigit fun c hc => isDigit_of_mem_digits hc]
  simp [digits]

theorem value?_eq_valueFrom? {s : List Char} (h : s ≠ []) : value? s = valueFrom? 0 s := by
  cases s with
  | nil => exact absurd rfl h
  | cons c s => rfl

theorem digits_of_lt {n : Nat} (h : n < 10) : digits n = [n.digitChar] := Nat.toDigits_of_lt_base h

theorem digits_append {n d : Nat} (hn : 0 < n) (hd : d < 10) : digits n ++ digits d = digits (10 * n + d) :=
  Nat.toDigits_append_toDigits (by decide) hn hd

theorem digits_ne_nil (n : Nat) : digits n ≠ [] := Nat.toDigits_ne_nil

theorem value?_digits (n : Nat) : value? (digits n) = some n := by
  rw [value?_eq_valueFrom? (digits_ne_nil n), valueFrom?_digits]

theorem isDigit_of_mem_padded {width n : Nat} {c : Char} (h : c ∈ padded width n) : c.isDigit := by
  rw [padded, List.leftpad, List.mem_append] at h
  obtain h | h := h
  · rw [List.eq_of_mem_replicate h]
    rfl
  · exact isDigit_of_mem_digits h

theorem value?_zeros (zeros n : Nat) : value? (List.replicate zeros '0' ++ digits n) = some n := by
  rw [value?_eq_valueFrom? (by simp [digits_ne_nil])]
  induction zeros with
  | zero => exact valueFrom?_digits n
  | succ k ih => exact ih

theorem value?_padded (width n : Nat) : value? (padded width n) = some n := value?_zeros _ n

theorem dropPlus_eq_self {s : List Char} (h : ∀ c ∈ s, c.isDigit) : dropPlus s = s := by
  unfold dropPlus
  split
  · have hplus := h '+' (by simp)
    simp [Char.isDigit] at hplus
  · rfl

theorem below?_digits {limit n : Nat} (h : n < limit) : below? limit (digits n) = some n := by
  have hplus : dropPlus (digits n) = digits n := dropPlus_eq_self fun _ => isDigit_of_mem_digits
  simp [below?, hplus, value?_digits, h]

theorem trim_digits (n : Nat) : Text.trim (digits n) = digits n :=
  Text.trim_eq_self fun _ hc => Text.isBlank_of_isDigit (isDigit_of_mem_digits hc)

theorem toList_toString_uint32 (n : UInt32) : (toString n).toList = digits n.toNat := by
  change (Nat.repr n.toNat).toList = _
  rw [Nat.toList_repr, digits]

theorem toList_toString_uint64 (n : UInt64) : (toString n).toList = digits n.toNat := by
  change (Nat.repr n.toNat).toList = _
  rw [Nat.toList_repr, digits]

theorem uint32?_trim_toString (n : UInt32) : uint32? (Text.trim (toString n).toList) = some n := by
  rw [toList_toString_uint32, trim_digits, uint32?, below?_digits n.toNat_lt_size]
  simp

theorem uint64?_trim_toString (n : UInt64) : uint64? (Text.trim (toString n).toList) = some n := by
  rw [toList_toString_uint64, trim_digits, uint64?, below?_digits n.toNat_lt_size]
  simp

end Numeral

end CalibratedSweep
