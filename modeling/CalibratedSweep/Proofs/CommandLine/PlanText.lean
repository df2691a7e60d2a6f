import CalibratedSweep.Proofs.CommandLine.Branches
import CalibratedSweep.Proofs.Text.Fields

namespace CalibratedSweep

namespace PlanLine

open Text (Field fields? fields?_flatMap_text)

def read? (s : List Char) : Option PlanLine :=
  match "├── queue: ".toList.isPrefixOf? s with
  | some queue => some (.heading (String.ofList queue))
  | none =>
    match ("│   ├── p:".toList.isPrefixOf? s).bind (fields? [" c:", " size:", " delay:", "ns"]) with
    | some [p, c, n, d] => some (.entry ⟨.ofNat p, .ofNat c⟩ (.ofNat n) (.ofNat d))
    | _ => none

theorem toList_heading (queue : String) :
    (PlanLine.heading queue).text.toList = "├── queue: ".toList ++ queue.toList := by
  have htext : (PlanLine.heading queue).text = "├── queue: " ++ queue := rfl
  rw [htext, String.toList_append]

def entryFields (t : ThreadPair) (capacity delay : UInt64) : List Field :=
  [.ofNat t.producers.toNat " c:", .ofNat t.consumers.toNat " size:", .ofNat capacity.toNat " delay:",
    .ofNat delay.toNat "ns"]

theorem toList_entry (t : ThreadPair) (capacity delay : UInt64) :
    (PlanLine.entry t capacity delay).text.toList =
      "│   ├── p:".toList ++ (entryFields t capacity delay).flatMap Field.text := by
  have htext : (PlanLine.entry t capacity delay).text =
      "│   ├── " ++ t.text ++ " size:" ++ toString capacity ++ " delay:" ++ toString delay ++ "ns" := rfl
  rw [htext]
  simp [ThreadPair.text, entryFields, Field.text, Field.ofNat, Numeral.toList_toString_uint32,
    Numeral.toList_toString_uint64]

theorem read?_text (l : PlanLine) : read? l.text.toList = some l := by
  cases l with
  | heading queue =>
    have hname : "├── queue: ".toList.isPrefixOf? (PlanLine.heading queue).text.toList =
        some queue.toList := by
      rw [toList_heading]
      exact List.isPrefixOf?_eq_some_iff_append_eq.mpr rfl
    simp only [read?, hname, String.ofList_toList]
  | entry t capacity delay =>
    have hname : "├── queue: ".toList.isPrefixOf? (PlanLine.entry t capacity delay).text.toList =
        none := by
      rw [toList_entry]
      rfl
    have hrest : "│   ├── p:".toList.isPrefixOf? (PlanLine.entry t capacity delay).text.toList =
        some ((entryFields t capacity delay).flatMap Field.text) := by
      rw [toList_entry]
      exact List.isPrefixOf?_eq_some_iff_append_eq.mpr rfl
    have hseparates : ∀ f ∈ entryFields t capacity delay, Text.separates f.label = true := by
      simp [entryFields, Field.ofNat, Text.separates]
    have hfields : fields? [" c:", " size:", " delay:", "ns"]
        ((entryFields t capacity delay).flatMap Field.text) =
          some [t.producers.toNat, t.consumers.toNat, capacity.toNat, delay.toNat] :=
      fields?_flatMap_text hseparates
    rw [read?, hname, hrest, Option.bind_some, hfields]
    simp

theorem newline_not_mem {l : PlanLine} (h : ∀ queue, l = .heading queue → '\n' ∉ queue.toList) :
    '\n' ∉ l.text.toList := by
  cases l with
  | heading queue =>
    have hqueue := h queue rfl
    rw [toList_heading]
    simp [hqueue]
  | entry t capacity delay =>
    have hfields : '\n' ∉ (entryFields t capacity delay).flatMap Field.text := by
      apply Text.not_mem_flatMap_text (by decide)
      simp [entryFields, Field.ofNat]
    rw [toList_entry]
    simp only [List.mem_append, not_or]
    exact ⟨by simp, hfields⟩

end PlanLine

namespace PlanTree

open Text (Field fields? fields?_flatMap_text)

structure Counts where
  configurations : Nat
  runs : Nat
  total : Nat
  ops : Nat
  deriving DecidableEq, Repr

namespace Counts

def ofPlan (p : Plan) (ops : UInt64) : Counts :=
  ⟨p.configurations.length, p.runs.toNat, p.totalRuns.toNat, ops.toNat⟩

def read? (s : List Char) : Option Counts :=
  match fields? [" configurations x ", " runs = ", " worker invocations (", " ops each)."] s with
  | some [n, runs, total, ops] => some ⟨n, runs, total, ops⟩
  | _ => none

end Counts

def closingFields (p : Plan) (ops : UInt64) : List Field :=
  [.ofNat p.configurations.length " configurations x ", .ofNat p.runs.toNat " runs = ",
    .ofNat p.totalRuns.toNat " worker invocations (", .ofNat ops.toNat " ops each)."]

theorem toList_closing (p : Plan) (ops : UInt64) :
    (closing p ops).toList = (closingFields p ops).flatMap Field.text := by
  simp [closing, closingFields, Field.text, Field.ofNat, Numeral.toList_toString_uint32,
    Numeral.toList_toString_uint64, Numeral.digits]

theorem read?_closing (p : Plan) (ops : UInt64) :
    Counts.read? (closing p ops).toList = some (.ofPlan p ops) := by
  have hseparates : ∀ f ∈ closingFields p ops, Text.separates f.label = true := by
    simp [closingFields, Field.ofNat, Text.separates]
  have hfields : fields? [" configurations x ", " runs = ", " worker invocations (", " ops each)."]
      (closing p ops).toList =
        some [p.configurations.length, p.runs.toNat, p.totalRuns.toNat, ops.toNat] := by
    rw [toList_closing]
    exact fields?_flatMap_text hseparates
  rw [Counts.read?, hfields]
  rfl

theorem newline_not_mem_closing (p : Plan) (ops : UInt64) : '\n' ∉ (closing p ops).toList := by
  rw [toList_closing]
  apply Text.not_mem_flatMap_text (by decide)
  simp [closingFields, Field.ofNat]

/-- A line of the tree does not begin with a number, as the closing line does. -/
theorem read?_line (l : PlanLine) : Counts.read? l.text.toList = none := by
  obtain ⟨c, s, htext, hc⟩ : ∃ c s, l.text.toList = c :: s ∧ c.isDigit = false := by
    cases l with
    | heading queue =>
      rw [PlanLine.toList_heading]
      exact ⟨'├', _, rfl, by decide⟩
    | entry t capacity delay =>
      rw [PlanLine.toList_entry]
      exact ⟨'│', _, rfl, by decide⟩
  rw [Counts.read?, htext, fields?, Text.number?_eq_none hc]
  rfl

/-- The lines up to the one that counts, and what it counts. The text ends with it. -/
def readLines? : List (List Char) → Option (List PlanLine × Counts)
  | [] => none
  | s :: rest =>
    match Counts.read? s with
    | some counts => if rest = [[]] then some ([], counts) else none
    | none =>
      (PlanLine.read? s).bind fun l => (readLines? rest).map fun t => (l :: t.1, t.2)

def read? (s : String) : Option (List PlanLine × Counts) :=
  match s.toList.splitOn '\n' with
  | [] => none
  | title :: rest => if title = "qsweep Plan:".toList then readLines? rest else none

theorem readLines?_text (p : Plan) (ops : UInt64) (ls : List PlanLine) :
    readLines? (ls.map (fun l => l.text.toList) ++ [(closing p ops).toList, []]) =
      some (ls, .ofPlan p ops) := by
  induction ls with
  | nil =>
    rw [List.map_nil, List.nil_append, readLines?, read?_closing]
    rfl
  | cons l ls ih =>
    rw [List.map_cons, List.cons_append, readLines?, read?_line]
    dsimp only
    rw [PlanLine.read?_text, Option.bind_some, ih]
    rfl

theorem splitOn_lines {ls : List PlanLine} (h : ∀ l ∈ ls, '\n' ∉ l.text.toList) (rest : List Char) :
    (ls.flatMap (fun l => l.text.toList ++ ['\n']) ++ rest).splitOn '\n' =
      ls.map (fun l => l.text.toList) ++ rest.splitOn '\n' := by
  induction ls with
  | nil => rfl
  | cons l ls ih =>
    rw [List.forall_mem_cons] at h
    rw [List.flatMap_cons, List.append_assoc, List.append_assoc, List.singleton_append,
      List.splitOn_append_cons_self_of_not_mem h.1, ih h.2]
    rfl

theorem read?_text {m : Matrix} (hn : m.queues.Nodup) (hq : ∀ q ∈ m.queues, '\n' ∉ q.toList) :
    read? (text m) = some (lines m.queues m.plan, .ofPlan m.plan m.ops) := by
  have hlines : ∀ l ∈ lines m.queues m.plan, '\n' ∉ l.text.toList := by
    intro l hl
    apply PlanLine.newline_not_mem
    rintro queue rfl
    exact hq queue (queue_of_heading_mem hn hl)
  have htext : (text m).toList = "qsweep Plan:".toList ++ '\n' ::
      ((lines m.queues m.plan).flatMap (fun l => l.text.toList ++ ['\n']) ++
        ((closing m.plan m.ops).toList ++ ['\n'])) := by
    simp [text, String.toList_join, List.flatMap_map]
  rw [read?, htext, List.splitOn_append_cons_self_of_not_mem (by decide), splitOn_lines hlines,
    List.splitOn_append_cons_self_of_not_mem (newline_not_mem_closing _ _), List.splitOn_nil]
  dsimp only
  rw [if_pos rfl, readLines?_text]

end PlanTree

end CalibratedSweep
