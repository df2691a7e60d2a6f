import CalibratedSweep.Text.Blank
import CalibratedSweep.Text.Lines
import Mathlib.Data.List.TakeWhile
/-!
What the lines of a text are, and what is left of one without the blanks around it, said without the
functions that compute them.
-/

namespace CalibratedSweep.Text

/-- A text falls into lines. Only the last one may lack its end. -/
inductive IsLines : List Char → List (List Char) → Prop
  | nothing : IsLines [] []
  | unended {line : List Char} (hl : '\n' ∉ line) (hne : line ≠ []) : IsLines line [line]
  | lineFeed {line rest : List Char} {lines : List (List Char)} (hl : '\n' ∉ line)
      (hr : line.getLast? ≠ some '\r') (hs : IsLines rest lines) :
      IsLines (line ++ '\n' :: rest) (line :: lines)
  | returned {line rest : List Char} {lines : List (List Char)} (hl : '\n' ∉ line)
      (hs : IsLines rest lines) : IsLines (line ++ '\r' :: '\n' :: rest) (line :: lines)

theorem linesFrom_append {line : List Char} (hl : '\n' ∉ line) (before rest : List Char) :
    linesFrom before (line ++ rest) = linesFrom (line.reverse ++ before) rest := by
  induction line generalizing before with
  | nil => rfl
  | cons c line ih =>
    rw [List.mem_cons, not_or] at hl
    rw [List.cons_append, linesFrom, if_neg (Ne.symm hl.1), ih hl.2, List.reverse_cons, List.append_assoc]
    rfl

theorem lines_lineFeed {line : List Char} (hl : '\n' ∉ line) (rest : List Char) :
    lines (line ++ '\n' :: rest) = closeLine line.reverse :: lines rest := by
  rw [lines, linesFrom_append hl, linesFrom, if_pos rfl, List.append_nil]
  rfl

theorem closeLine_reverse {line : List Char} (h : line.getLast? ≠ some '\r') :
    closeLine line.reverse = line := by
  unfold closeLine
  split
  · rename_i hr
    rw [← List.head?_reverse, hr] at h
    exact absurd rfl h
  · exact List.reverse_reverse line

theorem IsLines.lines_eq {s : List Char} {ls : List (List Char)} (h : IsLines s ls) :
    lines s = ls := by
  induction h with
  | nothing => rfl
  | @unended line hl hne =>
    rw [lines, ← List.append_nil line, linesFrom_append hl, linesFrom, if_neg (by simpa using hne)]
    simp
  | @lineFeed line rest ls hl hr hs ih => rw [lines_lineFeed hl, closeLine_reverse hr, ih]
  | @returned line rest ls hl hs ih =>
    have hl' : '\n' ∉ line ++ ['\r'] := by simpa using hl
    have hclose : closeLine (line ++ ['\r']).reverse = line := by
      rw [List.reverse_append]
      exact List.reverse_reverse line
    have hcut : line ++ '\r' :: '\n' :: rest = line ++ ['\r'] ++ '\n' :: rest := by simp
    rw [hcut, lines_lineFeed hl', hclose, ih]

theorem exists_isLines (s : List Char) : ∃ ls, IsLines s ls := by
  by_cases hfeed : '\n' ∈ s
  · obtain ⟨line, rest, hs, hl⟩ := List.eq_append_cons_of_mem hfeed
    have hshorter : rest.length < s.length := by
      rw [hs, List.length_append, List.length_cons]
      omega
    obtain ⟨ls, hrest⟩ := exists_isLines rest
    rw [hs]
    by_cases hr : line.getLast? = some '\r'
    · obtain ⟨line', rfl⟩ := List.getLast?_eq_some_iff.mp hr
      have hl' : '\n' ∉ line' := fun hmem => hl (List.mem_append_left _ hmem)
      refine ⟨line' :: ls, ?_⟩
      rw [List.append_assoc]
      exact .returned hl' hrest
    · exact ⟨line :: ls, .lineFeed hl hr hrest⟩
  · cases s with
    | nil => exact ⟨[], .nothing⟩
    | cons c s => exact ⟨[c :: s], .unended hfeed (List.cons_ne_nil c s)⟩
termination_by s.length

theorem lines_eq_iff {s : List Char} {ls : List (List Char)} : lines s = ls ↔ IsLines s ls := by
  constructor
  · rintro rfl
    obtain ⟨ls, h⟩ := exists_isLines s
    rw [h.lines_eq]
    exact h
  · exact IsLines.lines_eq

def AllBlank (s : List Char) : Prop := ∀ c ∈ s, isBlank c = true

theorem allBlank_append {s t : List Char} : AllBlank (s ++ t) ↔ AllBlank s ∧ AllBlank t :=
  List.forall_mem_append

/-- `core` with blanks around it. It has none at its own ends. -/
def Framed (core s : List Char) : Prop :=
  ∃ before after, s = before ++ core ++ after ∧ AllBlank before ∧ AllBlank after ∧
    (∀ c, core.head? = some c → isBlank c = false) ∧
    ∀ c, core.getLast? = some c → isBlank c = false

theorem AllBlank.dropWhile_append {before : List Char} (h : AllBlank before) {rest : List Char}
    (hr : ∀ c, rest.head? = some c → isBlank c = false) :
    (before ++ rest).dropWhile isBlank = rest := by
  rw [List.dropWhile_append_of_pos h]
  cases rest with
  | nil => rfl
  | cons c rest => exact List.dropWhile_cons_of_neg (by simp [hr c rfl])

theorem AllBlank.reverse {s : List Char} (h : AllBlank s) : AllBlank s.reverse :=
  fun c hc => h c (List.mem_reverse.mp hc)

theorem exists_blanks (s : List Char) :
    ∃ before, AllBlank before ∧ s = before ++ s.dropWhile isBlank ∧
      ∀ c, (s.dropWhile isBlank).head? = some c → isBlank c = false := by
  refine ⟨s.takeWhile isBlank, ?_, List.takeWhile_append_dropWhile.symm, ?_⟩
  · exact fun c hc => List.mem_takeWhile_imp hc
  · intro c hc
    have hnot := List.head?_dropWhile_not isBlank s
    rw [hc] at hnot
    simpa using hnot

theorem framed_trim (s : List Char) : Framed (trim s) s := by
  obtain ⟨before, hb, hs, hhead⟩ := exists_blanks s
  obtain ⟨after, ha, ht, hlast⟩ := exists_blanks (s.dropWhile isBlank).reverse
  have hcore : s.dropWhile isBlank = trim s ++ after.reverse := by
    rw [← List.reverse_reverse (s.dropWhile isBlank), ht, List.reverse_append]
    rfl
  refine ⟨before, after.reverse, ?_, hb, ha.reverse, fun c hc => ?_, fun c hc => ?_⟩
  · rw [List.append_assoc, ← hcore]
    exact hs
  · apply hhead
    rw [hcore, List.head?_append, hc]
    rfl
  · apply hlast
    rw [← List.getLast?_reverse]
    exact hc

theorem Framed.trim_eq {core s : List Char} (h : Framed core s) : trim s = core := by
  obtain ⟨before, after, rfl, hb, ha, hhead, hlast⟩ := h
  rw [trim, trimStart, trimEnd]
  cases core with
  | nil =>
    have hall : AllBlank (before ++ [] ++ after) := by
      rw [List.append_nil]
      exact allBlank_append.mpr ⟨hb, ha⟩
    rw [List.dropWhile_eq_nil_iff.mpr hall]
    rfl
  | cons c core =>
    have hfront : ∀ d, (c :: core ++ after).head? = some d → isBlank d = false := hhead
    have hback : ∀ d, (c :: core).reverse.head? = some d → isBlank d = false := by
      intro d hd
      rw [List.head?_reverse] at hd
      exact hlast d hd
    rw [List.append_assoc, hb.dropWhile_append hfront, List.reverse_append,
      ha.reverse.dropWhile_append hback, List.reverse_reverse]

theorem trim_eq_iff {core s : List Char} : trim s = core ↔ Framed core s := by
  constructor
  · rintro rfl
    exact framed_trim s
  · exact Framed.trim_eq

theorem trim_eq_nil_iff {s : List Char} : trim s = [] ↔ AllBlank s := by
  rw [trim_eq_iff]
  constructor
  · rintro ⟨before, after, rfl, hb, ha, -⟩
    rw [List.append_nil]
    exact allBlank_append.mpr ⟨hb, ha⟩
  · intro h
    exact ⟨s, [], by simp, h, nofun, nofun, nofun⟩

theorem framed_of_nonblank {before core after : List Char} (hb : AllBlank before) (ha : AllBlank after)
    (hcore : ∀ c ∈ core, isBlank c = false) : Framed core (before ++ core ++ after) :=
  ⟨before, after, rfl, hb, ha, fun c hc => hcore c (List.mem_of_mem_head? hc),
    fun c hc => hcore c (List.mem_of_mem_getLast? hc)⟩

theorem trim_eq_self {s : List Char} (h : ∀ c ∈ s, isBlank c = false) : trim s = s := by
  have hframed : Framed s ([] ++ s ++ []) := framed_of_nonblank nofun nofun h
  rw [List.nil_append, List.append_nil] at hframed
  exact hframed.trim_eq

theorem trim_append {before core after : List Char} (hb : AllBlank before) (ha : AllBlank after)
    (hne : core ≠ []) (hfirst : isBlank (core.head hne) = false)
    (hlast : isBlank (core.getLast hne) = false) : trim (before ++ core ++ after) = core := by
  apply Framed.trim_eq
  refine ⟨before, after, rfl, hb, ha, ?_, ?_⟩
  · intro c hc
    rw [List.head?_eq_some_head hne, Option.some_inj] at hc
    exact hc ▸ hfirst
  · intro c hc
    rw [List.getLast?_eq_some_getLast hne, Option.some_inj] at hc
    exact hc ▸ hlast

section Trim

variable {s t : List Char}

theorem trim_append_blank (ht : AllBlank t) : trim (s ++ t) = trim s := by
  obtain ⟨before, after, hs, hb, ha, hhead, hlast⟩ := framed_trim s
  apply Framed.trim_eq
  refine ⟨before, after ++ t, ?_, hb, allBlank_append.mpr ⟨ha, ht⟩, hhead, hlast⟩
  rw [← List.append_assoc, ← hs]

theorem allBlank_return : AllBlank ['\r'] := by
  intro c hc
  rw [List.mem_singleton.mp hc]
  decide

theorem trim_closeLine (s : List Char) : trim (closeLine s.reverse) = trim s := by
  unfold closeLine
  split
  · rename_i line hs
    rw [List.reverse_eq_iff.mp hs, List.reverse_cons, trim_append_blank allBlank_return]
  · rw [List.reverse_reverse]

theorem allBlank_congr (h : trim s = trim t) : AllBlank s ↔ AllBlank t := by
  rw [← trim_eq_nil_iff, h, trim_eq_nil_iff]

end Trim

inductive LineEnd where
  | lineFeed
  | returned

def LineEnd.text : LineEnd → List Char
  | .lineFeed => ['\n']
  | .returned => ['\r', '\n']

theorem exists_line {s : List Char} (hs : '\n' ∉ s) (e : LineEnd) (rest : List Char) :
    ∃ line, lines (s ++ e.text ++ rest) = line :: lines rest ∧ trim line = trim s := by
  cases e with
  | lineFeed =>
    refine ⟨closeLine s.reverse, ?_, trim_closeLine s⟩
    rw [← lines_lineFeed hs, LineEnd.text, List.append_assoc, List.singleton_append]
  | returned =>
    have hs' : '\n' ∉ s ++ ['\r'] := by simpa using hs
    refine ⟨closeLine (s ++ ['\r']).reverse, ?_, ?_⟩
    · rw [← lines_lineFeed hs', LineEnd.text]
      simp
    · rw [trim_closeLine, trim_append_blank allBlank_return]

theorem lines_unended {s : List Char} (hs : '\n' ∉ s) (hne : s ≠ []) : lines s = [s] :=
  lines_eq_iff.mpr (.unended hs hne)

theorem take_lines_append {s : List Char} {k : Nat} (h : k ≤ s.count '\n') (more : List Char) :
    (lines (s ++ more)).take k = (lines s).take k := by
  induction k generalizing s with
  | zero => rfl
  | succ k ih =>
    have hfeed : '\n' ∈ s := List.count_pos_iff.mp (by omega)
    obtain ⟨line, rest, rfl, hline⟩ := List.eq_append_cons_of_mem hfeed
    have hrest : k ≤ rest.count '\n' := by
      rw [List.count_append, List.count_cons_self, List.count_eq_zero_of_not_mem hline] at h
      omega
    rw [List.append_assoc, List.cons_append, lines_lineFeed hline, lines_lineFeed hline, List.take_succ_cons,
      List.take_succ_cons, ih hrest]

end CalibratedSweep.Text
