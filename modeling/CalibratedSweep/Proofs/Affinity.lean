import CalibratedSweep.Affinity
import CalibratedSweep.Proofs.Text.NumberLine
import Mathlib.Data.List.Forall2
import Mathlib.Data.List.ReduceOption

namespace CalibratedSweep.Affinity

open Text (AllBlank Framed IsLines LineEnd Margins Shows)

section Map

variable {α β ε : Type} {x : Except ε α} {f : α → β}

theorem map_eq_ok_iff {b : β} : x.map f = .ok b ↔ ∃ a, x = .ok a ∧ f a = b := by
  cases x <;> simp [Except.map]

theorem map_eq_error_iff {e : ε} : x.map f = .error e ↔ x = .error e := by
  cases x <;> simp [Except.map]

end Map

/-- What a line lists: nothing if it is blank, otherwise the number that it shows. -/
def Lists (line : List Char) : Option UInt64 → Prop
  | none => AllBlank line
  | some cpu => Shows line cpu

theorem lists_congr {line line' : List Char} (h : Text.trim line = Text.trim line') (entry : Option UInt64) :
    Lists line entry ↔ Lists line' entry := by
  cases entry with
  | none => exact Text.allBlank_congr h
  | some cpu => exact Text.shows_congr h cpu

section Lines

variable {number : Nat} {line : List Char} {lines : List (List Char)}

theorem readLines_of_lists {entry : Option UInt64} (h : Lists line entry) :
    readLines number (line :: lines) = (readLines (number + 1) lines).map (entry.toList ++ ·) := by
  cases entry with
  | none =>
    have hblank : Text.trim line = [] := Text.trim_eq_nil_iff.mpr h
    rw [readLines, hblank]
    cases readLines (number + 1) lines <;> rfl
  | some cpu =>
    have hfilled : (Text.trim line).isEmpty = false := List.isEmpty_eq_false_iff.mpr h.trim_ne_nil
    simp [readLines, hfilled, Text.uint64?_trim_eq_some_iff.mpr h]

theorem readLines_of_not_lists (h : ¬∃ entry, Lists line entry) :
    readLines number (line :: lines) = .error ⟨number, String.ofList (Text.trim line)⟩ := by
  have hfilled : (Text.trim line).isEmpty = false := by
    rw [List.isEmpty_eq_false_iff, ne_eq, Text.trim_eq_nil_iff]
    exact fun hblank => h ⟨none, hblank⟩
  have hnone : Numeral.uint64? (Text.trim line) = none :=
    Text.uint64?_trim_eq_none_iff.mpr fun ⟨cpu, hcpu⟩ => h ⟨some cpu, hcpu⟩
  simp [readLines, hfilled, hnone]

theorem readLines_eq_ok_iff {cpus : List UInt64} : readLines number lines = .ok cpus ↔
    ∃ entries, List.Forall₂ Lists lines entries ∧ cpus = entries.reduceOption := by
  constructor
  · intro h
    induction lines generalizing number cpus with
    | nil => exact ⟨[], .nil, (Except.ok.inj h).symm⟩
    | cons line lines ih =>
      by_cases hline : ∃ entry, Lists line entry
      · obtain ⟨entry, hentry⟩ := hline
        rw [readLines_of_lists hentry, map_eq_ok_iff] at h
        obtain ⟨rest, hrest, rfl⟩ := h
        obtain ⟨entries, hentries, rfl⟩ := ih hrest
        exact ⟨entry :: entries, .cons hentry hentries, by cases entry <;> rfl⟩
      · rw [readLines_of_not_lists hline] at h
        cases h
  · rintro ⟨entries, hentries, rfl⟩
    induction hentries generalizing number with
    | nil => rfl
    | @cons line entry lines entries hentry hentries ih =>
      rw [readLines_of_lists hentry, ih]
      cases entry <;> rfl

theorem exists_entries_iff :
    (∃ entries, List.Forall₂ Lists lines entries) ↔ ∀ line ∈ lines, ∃ entry, Lists line entry := by
  induction lines with
  | nil => exact ⟨fun _ => nofun, fun _ => ⟨[], .nil⟩⟩
  | cons line lines ih =>
    rw [List.forall_mem_cons, ← ih]
    constructor
    · rintro ⟨_, hentries⟩
      cases hentries with
      | @cons _ entry _ entries hentry hentries => exact ⟨⟨entry, hentry⟩, entries, hentries⟩
    · rintro ⟨⟨entry, hentry⟩, entries, hentries⟩
      exact ⟨entry :: entries, .cons hentry hentries⟩

/-- The line that is reported is the first that is neither blank nor a number. -/
theorem exists_of_readLines_eq_error {e : ReadError} (h : readLines number lines = .error e) :
    ∃ above line below, lines = above ++ line :: below ∧
      (∀ other ∈ above, ∃ entry, Lists other entry) ∧ (¬∃ entry, Lists line entry) ∧
      e = ⟨number + above.length, String.ofList (Text.trim line)⟩ := by
  induction lines generalizing number with
  | nil => cases h
  | cons line lines ih =>
    by_cases hline : ∃ entry, Lists line entry
    · obtain ⟨entry, hentry⟩ := hline
      rw [readLines_of_lists hentry, map_eq_error_iff] at h
      obtain ⟨above, bad, below, rfl, habove, hbad, rfl⟩ := ih h
      refine ⟨line :: above, bad, below, rfl, ?_, hbad, ?_⟩
      · exact List.forall_mem_cons.mpr ⟨⟨entry, hentry⟩, habove⟩
      · rw [List.length_cons, Nat.add_right_comm, Nat.add_assoc]
    · rw [readLines_of_not_lists hline] at h
      exact ⟨[], line, lines, rfl, nofun, hline, (Except.error.inj h).symm⟩

theorem readLines_append {above below : List (List Char)}
    (habove : ∀ other ∈ above, ∃ entry, Lists other entry) (hline : ¬∃ entry, Lists line entry) :
    readLines number (above ++ line :: below) =
      .error ⟨number + above.length, String.ofList (Text.trim line)⟩ := by
  induction above generalizing number with
  | nil => exact readLines_of_not_lists hline
  | cons other above ih =>
    rw [List.forall_mem_cons] at habove
    obtain ⟨entry, hentry⟩ := habove.1
    rw [List.cons_append, readLines_of_lists hentry, ih habove.2, List.length_cons, Nat.add_right_comm,
      Nat.add_assoc]
    rfl

end Lines

structure Reads (lines : List (List Char)) (result : Except ReadError Affinity) : Prop where
  accepted : (∃ a, result = .ok a) ↔ ∀ line ∈ lines, ∃ entry, Lists line entry
  listed : ∀ a, result = .ok a ↔
    ∃ entries, List.Forall₂ Lists lines entries ∧ a.cpus = entries.reduceOption
  refused : ∀ e, result = .error e ↔ ∃ above line below, lines = above ++ line :: below ∧
    (∀ other ∈ above, ∃ entry, Lists other entry) ∧ (¬∃ entry, Lists line entry) ∧
    e.line = above.length + 1 ∧ Framed e.text.toList line
  named : ∀ e, result = .error e →
    e.message = "line " ++ toString e.line ++ ": invalid CPU id " ++ Text.quoted e.text

theorem read_eq_ok_iff {text : String} {a : Affinity} :
    read text = .ok a ↔ readLines 1 (Text.lines text.toList) = .ok a.cpus := by
  rw [read, map_eq_ok_iff]
  constructor
  · rintro ⟨cpus, h, rfl⟩
    exact h
  · intro h
    exact ⟨a.cpus, h, rfl⟩

theorem reads_lines (text : String) : Reads (Text.lines text.toList) (read text) where
  accepted := by
    rw [← exists_entries_iff]
    simp only [read_eq_ok_iff, readLines_eq_ok_iff]
    constructor
    · rintro ⟨a, entries, hentries, -⟩
      exact ⟨entries, hentries⟩
    · rintro ⟨entries, hentries⟩
      exact ⟨⟨entries.reduceOption⟩, entries, hentries, rfl⟩
  listed := fun _ => read_eq_ok_iff.trans readLines_eq_ok_iff
  refused := by
    intro e
    rw [read, map_eq_error_iff]
    constructor
    · intro h
      obtain ⟨above, line, below, hlines, habove, hline, rfl⟩ := exists_of_readLines_eq_error h
      refine ⟨above, line, below, hlines, habove, hline, Nat.add_comm .., ?_⟩
      rw [String.toList_ofList]
      exact Text.framed_trim line
    · rintro ⟨above, line, below, hlines, habove, hline, hnumber, htext⟩
      rw [hlines, readLines_append habove hline, htext.trim_eq, String.ofList_toList, Nat.add_comm,
        ← hnumber]
  named := fun _ _ => rfl

/-- A line of a printed list: a processor or nothing, with blanks around it. -/
structure PrintedLine where
  margins : Margins
  cpu : Option UInt64

namespace PrintedLine

def body (l : PrintedLine) : List Char :=
  l.margins.around (l.cpu.elim [] fun cpu => Numeral.digits cpu.toNat)

theorem newline_not_mem_body (l : PrintedLine) : '\n' ∉ l.body := by
  apply l.margins.newline_not_mem_around
  cases l.cpu with
  | none => exact List.not_mem_nil
  | some cpu => exact Text.newline_not_mem_digits cpu.toNat

theorem lists_body (l : PrintedLine) : Lists l.body l.cpu := by
  unfold body
  cases l.cpu with
  | none => exact l.margins.allBlank_around
  | some cpu => exact l.margins.shows_around cpu

theorem cpu_of_body_eq_nil {l : PrintedLine} (h : l.body = []) : l.cpu = none := by
  have hlists := l.lists_body
  rw [h] at hlists
  cases hcpu : l.cpu with
  | none => rfl
  | some cpu =>
    rw [hcpu] at hlists
    exact absurd rfl hlists.trim_ne_nil

end PrintedLine

/-- A printed list. Its last line has no end, and is empty if every line has one. -/
def printed (ended : List (PrintedLine × LineEnd)) (last : PrintedLine) : List Char :=
  (ended.flatMap fun l => l.1.body ++ l.2.text) ++ last.body

theorem exists_entries_printed (ended : List (PrintedLine × LineEnd)) (last : PrintedLine) :
    ∃ entries, List.Forall₂ Lists (Text.lines (printed ended last)) entries ∧
      (ended.filterMap fun l => l.1.cpu) ++ last.cpu.toList = entries.reduceOption := by
  induction ended with
  | nil =>
    rw [printed, List.flatMap_nil, List.nil_append]
    by_cases hlast : last.body = []
    · rw [hlast, last.cpu_of_body_eq_nil hlast]
      exact ⟨[], .nil, rfl⟩
    · rw [Text.lines_unended last.newline_not_mem_body hlast]
      exact ⟨[last.cpu], .cons last.lists_body .nil, by cases last.cpu <;> rfl⟩
  | cons l ended ih =>
    obtain ⟨entries, hentries, hcpus⟩ := ih
    obtain ⟨line, hlines, htrim⟩ := Text.exists_line l.1.newline_not_mem_body l.2 (printed ended last)
    refine ⟨l.1.cpu :: entries, ?_, ?_⟩
    · -- a return among the blanks after a number may count as part of the line end
      rw [printed, List.flatMap_cons, List.append_assoc, ← printed, hlines]
      exact .cons ((lists_congr htrim l.1.cpu).mpr l.1.lists_body) hentries
    · rw [List.filterMap_cons]
      cases l.1.cpu with
      | none => exact hcpus
      | some cpu => exact congrArg (cpu :: ·) hcpus

/--
A text is a list exactly when every line is blank or shows a number, and then lists these numbers in order;
otherwise the first other line is reported, counted among all lines. A list that was printed comes back,
whatever blanks and line ends it was printed with. Selecting takes from the front.
-/
theorem listings_read :
    (∀ text : String, ∃ lines, IsLines text.toList lines ∧ Reads lines (read text)) ∧
      (∀ (ended : List (PrintedLine × LineEnd)) (last : PrintedLine),
        read (String.ofList (printed ended last)) =
          .ok ⟨(ended.filterMap fun l => l.1.cpu) ++ last.cpu.toList⟩) ∧
      ∀ (a : Affinity) (count : Nat),
        a.select count <+: a.cpus ∧ (a.select count).length = min count a.cpus.length := by
  refine ⟨fun text => ?_, fun ended last => ?_, fun a count => ?_⟩
  · exact ⟨Text.lines text.toList, Text.lines_eq_iff.mp rfl, reads_lines text⟩
  · rw [read_eq_ok_iff, String.toList_ofList, readLines_eq_ok_iff]
    exact exists_entries_printed ended last
  · exact ⟨List.take_prefix count a.cpus, List.length_take⟩

example : read "0\r\n\n cpu1 \n" = .error ⟨3, "cpu1"⟩ := by rfl

end CalibratedSweep.Affinity
