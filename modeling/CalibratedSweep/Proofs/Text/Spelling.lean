import CalibratedSweep.Proofs.Text.Numeral

namespace CalibratedSweep

namespace Numeral

/-- The digits of `n` behind any zeros, with a plus sign or without. -/
def Spells (s : List Char) (n : Nat) : Prop :=
  ∃ sign zeros, (sign = [] ∨ sign = ['+']) ∧ s = sign ++ (List.replicate zeros '0' ++ digits n)

theorem digitChar_of_digit? {c : Char} {d : Nat} (h : digit? c = some d) : d < 10 ∧ d.digitChar = c := by
  unfold digit? at h
  split at h
  · rename_i hc
    have hlo : 48 ≤ c.toNat := hc.1
    have hhi : c.toNat ≤ 57 := hc.2
    have hd : c.toNat - 48 = d := Option.some.inj h
    have hlt : d < 10 := by omega
    refine ⟨hlt, Char.toNat_inj.mp ?_⟩
    rw [Nat.toNat_digitChar_of_lt_ten hlt]
    omega
  · cases h

theorem valueFrom?_cons {c : Char} {s : List Char} {value n : Nat}
    (h : valueFrom? value (c :: s) = some n) :
    ∃ d, d < 10 ∧ d.digitChar = c ∧ valueFrom? (value * 10 + d) s = some n := by
  rw [valueFrom?] at h
  split at h
  · rename_i d hd
    exact ⟨d, (digitChar_of_digit? hd).1, (digitChar_of_digit? hd).2, h⟩
  · cases h

theorem digits_append_of_valueFrom? {s : List Char} {value n : Nat} (hpos : 0 < value)
    (h : valueFrom? value s = some n) : digits value ++ s = digits n := by
  induction s generalizing value with
  | nil =>
    rw [List.append_nil, Option.some.inj h]
  | cons c s ih =>
    obtain ⟨d, hd, rfl, hrest⟩ := valueFrom?_cons h
    have hnext : digits value ++ [d.digitChar] = digits (value * 10 + d) := by
      rw [← digits_of_lt hd, digits_append hpos hd, Nat.mul_comm]
    rw [List.append_cons, hnext]
    exact ih (by omega) hrest

/-- The zeros in front keep the value at zero. From the first other digit on nothing is lost. -/
theorem exists_zeros {s : List Char} {n : Nat} (hne : s ≠ []) (h : valueFrom? 0 s = some n) :
    ∃ zeros, s = List.replicate zeros '0' ++ digits n := by
  induction s with
  | nil => exact absurd rfl hne
  | cons c s ih =>
    obtain ⟨d, hd, rfl, hrest⟩ := valueFrom?_cons h
    rw [Nat.zero_mul, Nat.zero_add] at hrest
    obtain rfl | hpos := Nat.eq_zero_or_pos d
    · by_cases hs : s = []
      · subst hs
        obtain rfl : 0 = n := Option.some.inj hrest
        exact ⟨0, rfl⟩
      · obtain ⟨zeros, rfl⟩ := ih hs hrest
        exact ⟨zeros + 1, rfl⟩
    · refine ⟨0, ?_⟩
      have hdigits := digits_append_of_valueFrom? hpos hrest
      rw [digits_of_lt hd] at hdigits
      exact hdigits

theorem value?_eq_some_iff {s : List Char} {n : Nat} :
    value? s = some n ↔ ∃ zeros, s = List.replicate zeros '0' ++ digits n := by
  constructor
  · intro h
    have hne : s ≠ [] := by
      rintro rfl
      cases h
    rw [value?_eq_valueFrom? hne] at h
    exact exists_zeros hne h
  · rintro ⟨zeros, rfl⟩
    exact value?_zeros zeros n

theorem dropPlus_cases (s : List Char) : s = dropPlus s ∨ s = '+' :: dropPlus s := by
  unfold dropPlus
  split
  · exact .inr rfl
  · exact .inl rfl

theorem isDigit_of_mem_zeros_digits {zeros n : Nat} {c : Char}
    (h : c ∈ List.replicate zeros '0' ++ digits n) : c.isDigit := by
  obtain h | h := List.mem_append.mp h
  · rw [List.eq_of_mem_replicate h]
    rfl
  · exact isDigit_of_mem_digits h

theorem value?_dropPlus_eq_some_iff {s : List Char} {n : Nat} :
    value? (dropPlus s) = some n ↔ Spells s n := by
  rw [value?_eq_some_iff]
  constructor
  · rintro ⟨zeros, hs⟩
    obtain h | h := dropPlus_cases s
    · exact ⟨[], zeros, .inl rfl, by rw [List.nil_append, ← hs, ← h]⟩
    · exact ⟨['+'], zeros, .inr rfl, by rw [List.singleton_append, ← hs, ← h]⟩
  · rintro ⟨sign, zeros, rfl | rfl, rfl⟩
    · exact ⟨zeros, dropPlus_eq_self fun _ => isDigit_of_mem_zeros_digits⟩
    · exact ⟨zeros, rfl⟩

theorem below?_eq_some_iff {limit n : Nat} {s : List Char} :
    below? limit s = some n ↔ n < limit ∧ Spells s n := by
  rw [← value?_dropPlus_eq_some_iff, below?]
  cases value? (dropPlus s) with
  | none => simp
  | some m =>
    dsimp only
    split <;> grind

theorem uint64?_eq_some_iff {s : List Char} {n : UInt64} :
    uint64? s = some n ↔ Spells s n.toNat := by
  rw [uint64?, Option.map_eq_some_iff]
  simp only [below?_eq_some_iff]
  constructor
  · rintro ⟨m, ⟨hm, hs⟩, rfl⟩
    rwa [UInt64.toNat_ofNat_of_lt' hm]
  · intro hs
    exact ⟨n.toNat, ⟨n.toNat_lt_size, hs⟩, UInt64.ofNat_toNat⟩

theorem Spells.ne_nil {s : List Char} {n : Nat} (h : Spells s n) : s ≠ [] := by
  obtain ⟨sign, zeros, -, rfl⟩ := h
  simp [digits_ne_nil]

theorem spells_digits (n : Nat) : Spells (digits n) n := ⟨[], 0, .inl rfl, rfl⟩

end Numeral

end CalibratedSweep
