import CalibratedSweep.Proofs.Sink.Append
/-!
A result file over several sessions. Each session opens the file, behind the rows that are there, and
writes some more. At every point the file holds its header once, and the rows written by then are
those that are read back.
-/

namespace CalibratedSweep

/-- A header is not the record of any row: it has names where the record has numbers. -/
theorem Schema.header_ne_record (s : Schema) (r : Row) : s.header ≠ s.record r := by
  have hrefused : ∃ e, s.parseKey s.header = .error e := by cases s <;> exact ⟨_, rfl⟩
  intro he
  obtain ⟨e, herror⟩ := hrefused
  rw [he, s.parseKey_record r] at herror
  cases herror

namespace Sink

open Workspace (Holds Vacant blank sinkFile vacant_blank view)

variable {path : String} {s : Schema} {w : Workspace} {rows : List Row}

theorem texts?_sheet (s : Schema) (rows : List Row) :
    (Csv.records (sheet s rows)).map Csv.Record.texts? =
      some s.header :: rows.map fun r => some (s.record r) := by
  obtain ⟨hcompleted, hend⟩ := completed_sheet s rows
  have hblank := (completed_headerLine s Csv.Scan.start_blank).2
  rw [Csv.records, dropMark_sheet, Csv.Scan.run_eq, hcompleted, hend.finish, List.append_nil,
    List.map_cons, texts?_rowLines s rows hblank, texts?_written]

theorem count_header_sheet (s : Schema) (rows : List Row) :
    ((Csv.records (sheet s rows)).map Csv.Record.texts?).count (some s.header) = 1 := by
  have hnone : (rows.map fun r => some (s.record r)).count (some s.header) = 0 := by
    rw [List.count_eq_zero, List.mem_map]
    rintro ⟨r, -, he⟩
    exact s.header_ne_record r (Option.some.inj he).symm
  rw [texts?_sheet, List.count_cons_self, hnone]

/--
What is done with a result file once it was opened: a row is written, or the session ends and the
next one opens the file behind its rows.
-/
inductive Act where
  | write (r : Row)
  | reopen

namespace Act

def row? : Act → Option Row
  | write r => some r
  | reopen => none

def perform (path : String) (s : Schema) : Act → Workspace → Except SinkError Unit × Workspace
  | write r, w => writeRow (sinkFile path) s r w
  | reopen, w => append (sinkFile path) s w.closed

theorem perform_holds (a : Act) (h : Holds path (sheet s rows) w) :
    ∃ t, a.perform path s w = (.ok (), t) ∧ Holds path (sheet s (rows ++ a.row?.toList)) t := by
  cases a with
  | write r =>
    obtain ⟨t, ht, hh⟩ := writeRow_holds (s := s) h r
    refine ⟨t, ht, ?_⟩
    have hrow := sheet_append s rows [r]
    rw [List.flatMap_singleton] at hrow
    rwa [row?, Option.toList_some, ← hrow]
  | reopen =>
    have hv : view path w.closed = .ok (.file (sheet s rows)) := h.view
    obtain ⟨t, ht, hh⟩ := append_of_keysIn hv (sheet_ne_nil s rows) (keysIn_sheet s rows)
    exact ⟨t, ht, by rwa [row?, Option.toList_none, List.append_nil]⟩

end Act

def performAll (path : String) (s : Schema) :
    List Act → Workspace → Except SinkError Unit × Workspace
  | [], w => (.ok (), w)
  | a :: acts, w =>
    match a.perform path s w with
    | (.error e, w) => (.error e, w)
    | (.ok (), w) => performAll path s acts w

theorem performAll_holds (h : Holds path (sheet s rows) w) (acts : List Act) :
    ∃ t, performAll path s acts w = (.ok (), t) ∧
      Holds path (sheet s (rows ++ acts.filterMap Act.row?)) t := by
  induction acts generalizing rows w with
  | nil => exact ⟨w, rfl, by simpa using h⟩
  | cons a acts ih =>
    obtain ⟨u, hu, hh⟩ := a.perform_holds h
    obtain ⟨t, ht, hh⟩ := ih hh
    refine ⟨t, by rw [performAll, hu]; exact ht, ?_⟩
    have hrows : a.row?.toList ++ acts.filterMap Act.row? = (a :: acts).filterMap Act.row? := by
      cases a <;> rfl
    rwa [List.append_assoc, hrows] at hh

def sessions (path : String) (s : Schema) (mode : OpenMode) (acts : List Act) (w : Workspace) :
    Except SinkError Unit × Workspace :=
  let opened := match mode with
    | .truncate => create (sinkFile path) s w
    | .append => append (sinkFile path) s w
  match opened with
  | (.error e, w) => (.error e, w)
  | (.ok (), w) => performAll path s acts w

theorem sessions_holds (h : Vacant path w) (s : Schema) (mode : OpenMode) (acts : List Act) :
    ∃ t, sessions path s mode acts w = (.ok (), t) ∧
      Holds path (sheet s (acts.filterMap Act.row?)) t := by
  have hheader : headerLine s = sheet s [] := by rw [sheet, List.flatMap_nil, List.append_nil]
  unfold sessions
  cases mode with
  | truncate =>
    obtain ⟨u, hu, hh⟩ := create_vacant h s
    rw [hu]
    exact performAll_holds (hheader ▸ hh) acts
  | append =>
    obtain ⟨u, hu, hh⟩ := append_vacant h s
    rw [hu]
    exact performAll_holds (hheader ▸ hh) acts

/--
Sessions on a missing file never fail. After any of their acts the keys that are read back are those
of the rows written so far, the file has one header, and it begins with all that it held before.
-/
theorem sessions_read_back (h : Vacant path w) (s : Schema) (mode : OpenMode) (acts : List Act) :
    ∃ t content keys, sessions path s mode acts w = (.ok (), t) ∧
      view path t = .ok (.file content) ∧
      completed (sinkFile path) s t = .ok keys ∧
      (∀ k, k ∈ keys ↔ ∃ r ∈ acts.filterMap Act.row?, k = s.keyOf r.key) ∧
      ((Csv.records content).map Csv.Record.texts?).count (some s.header) = 1 ∧
      ∀ before, before <+: acts → ∃ u earlier, sessions path s mode before w = (.ok (), u) ∧
        view path u = .ok (.file earlier) ∧ earlier <+: content := by
  obtain ⟨t, ht, hh⟩ := sessions_holds h s mode acts
  refine ⟨t, _, _, ht, hh.view, completed_of_view hh.view (keysIn_sheet s _), fun k => ?_,
    count_header_sheet s _, ?_⟩
  · simp [eq_comm]
  · rintro before ⟨after, rfl⟩
    obtain ⟨u, hu, hh'⟩ := sessions_holds h s mode before
    refine ⟨u, _, hu, hh'.view, ?_⟩
    rw [List.filterMap_append, ← sheet_append]
    exact List.prefix_append _ _

theorem sessions_read_back_quoted :
    let a : Row := ⟨⟨"say \"A\",\r\nor ", ⟨1, 1⟩, 64, 1000, 0⟩, 3, 0, 3⟩
    let b : Row := ⟨⟨"", ⟨4294967295, 1⟩, 64, 1000, 250⟩, 3, 0, 3⟩
    Vacant "out.csv" blank ∧
      ∃ t keys, sessions "out.csv" .withDelay .append [.write a, .reopen, .write b] blank =
          (.ok (), t) ∧
        completed (sinkFile "out.csv") .withDelay t = .ok keys ∧
        ∀ k, k ∈ keys ↔ ∃ r ∈ [a, b], k = Schema.withDelay.keyOf r.key := by
  intro a b
  obtain ⟨t, content, keys, ht, -, hk, hmem, -⟩ :=
    sessions_read_back vacant_blank .withDelay .append [.write a, .reopen, .write b]
  exact ⟨vacant_blank, t, keys, ht, hk, hmem⟩

end Sink

end CalibratedSweep
