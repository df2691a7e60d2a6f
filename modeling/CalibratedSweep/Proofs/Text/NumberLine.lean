import CalibratedSweep.Proofs.Text.Spelling

namespace CalibratedSweep.Text

def Shows (line : List Char) (n : UInt64) : Prop :=
  ∃ core, Framed core line ∧ Numeral.Spells core n.toNat

theorem uint64?_trim_eq_some_iff {line : List Char} {n : UInt64} :
    Numeral.uint64? (trim line) = some n ↔ Shows line n := by
  rw [Numeral.uint64?_eq_some_iff]
  constructor
  · intro h
    exact ⟨trim line, framed_trim line, h⟩
  · rintro ⟨core, hcore, h⟩
    rwa [hcore.trim_eq]

theorem uint64?_trim_eq_none_iff {line : List Char} :
    Numeral.uint64? (trim line) = none ↔ ¬∃ n, Shows line n := by
  rw [Option.eq_none_iff_forall_ne_some, not_exists]
  exact forall_congr' fun n => not_congr uint64?_trim_eq_some_iff

theorem Shows.trim_ne_nil {line : List Char} {n : UInt64} (h : Shows line n) : trim line ≠ [] := by
  obtain ⟨core, hcore, hn⟩ := h
  rw [hcore.trim_eq]
  exact hn.ne_nil

theorem shows_congr {s t : List Char} (h : trim s = trim t) (n : UInt64) : Shows s n ↔ Shows t n := by
  rw [← uint64?_trim_eq_some_iff, h, uint64?_trim_eq_some_iff]

theorem newline_not_mem_digits (n : Nat) : '\n' ∉ Numeral.digits n :=
  fun h => absurd (Numeral.isDigit_of_mem_digits h) (by decide)

structure Margins where
  before : List Char
  after : List Char
  blank : AllBlank (before ++ after)
  inline : '\n' ∉ before ++ after

namespace Margins

def around (m : Margins) (core : List Char) : List Char := m.before ++ core ++ m.after

variable (m : Margins)

theorem newline_not_mem_around {core : List Char} (h : '\n' ∉ core) : '\n' ∉ m.around core := by
  have hm := m.inline
  simp only [List.mem_append, not_or] at hm
  simp [around, hm, h]

theorem allBlank_around : AllBlank (m.around []) := by
  rw [around, List.append_nil]
  exact m.blank

theorem shows_around (n : UInt64) : Shows (m.around (Numeral.digits n.toNat)) n := by
  obtain ⟨hbefore, hafter⟩ := allBlank_append.mp m.blank
  have hdigits : ∀ c ∈ Numeral.digits n.toNat, isBlank c = false := fun c hc =>
    isBlank_of_isDigit (Numeral.isDigit_of_mem_digits hc)
  exact ⟨_, framed_of_nonblank hbefore hafter hdigits, Numeral.spells_digits n.toNat⟩

theorem exists_line_around (n : UInt64) (e : LineEnd) (rest : List Char) :
    ∃ line, lines (m.around (Numeral.digits n.toNat) ++ e.text ++ rest) = line :: lines rest ∧
      Shows line n := by
  have hinline := m.newline_not_mem_around (newline_not_mem_digits n.toNat)
  obtain ⟨line, hlines, htrim⟩ := exists_line hinline e rest
  exact ⟨line, hlines, (shows_congr htrim n).mpr (m.shows_around n)⟩

theorem lines_around (n : UInt64) :
    lines (m.around (Numeral.digits n.toNat)) = [m.around (Numeral.digits n.toNat)] := by
  apply lines_unended
  · exact m.newline_not_mem_around (newline_not_mem_digits n.toNat)
  · simp [around, Numeral.digits_ne_nil]

end Margins

end CalibratedSweep.Text
