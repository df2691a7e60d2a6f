import CalibratedSweep.Proofs.Csv.RoundTrip
import CalibratedSweep.Proofs.Schema.Key
import CalibratedSweep.Proofs.Text.Bytes
import CalibratedSweep.Sink.Content
/-!
Rows behind a readable content. Content that ends between two records can be extended: rows written
behind it are read back after what it held. The header alone is such a content.
-/

namespace CalibratedSweep.Sink

open Csv (dropMark)

/-- The content ends between two records, not within one. -/
def Terminated (content : Bytes) : Prop := (Csv.Scan.start.after (dropMark content)).Blank

/-- The beginnings of a byte order mark, which more bytes might complete. -/
def IsPartialMark (content : Bytes) : Prop :=
  content = [] ∨ content = [0xEF] ∨ content = [0xEF, 0xBB]

theorem dropMark_append {content : Bytes} (h : ¬IsPartialMark content) (more : Bytes) :
    dropMark (content ++ more) = dropMark content ++ more := by
  rw [IsPartialMark, not_or, not_or] at h
  match content, h with
  | [a], h =>
    have ha : a ≠ 0xEF := fun he => h.2.1 (by rw [he])
    simp [dropMark, ha]
  | [a, b], h =>
    have hab : ¬(a = 0xEF ∧ b = 0xBB) := fun he => h.2.2 (by rw [he.1, he.2])
    have hdrop (more : Bytes) : dropMark (a :: b :: more) = a :: b :: more := by
      unfold dropMark
      split
      · rename_i he
        simp only [List.cons.injEq] at he
        exact absurd ⟨he.1, he.2.1⟩ hab
      · rfl
    exact (hdrop more).trans (congrArg (· ++ more) (hdrop []).symm)
  | a :: b :: c :: rest, _ =>
    by_cases hm : a = 0xEF ∧ b = 0xBB ∧ c = 0xBF
    · obtain ⟨rfl, rfl, rfl⟩ := hm; rfl
    · have hdrop (more : Bytes) : dropMark (a :: b :: c :: more) = a :: b :: c :: more := by
        unfold dropMark
        split
        · rename_i he
          simp only [List.cons.injEq] at he
          exact absurd ⟨he.1, he.2.1, he.2.2.1⟩ hm
        · rfl
      exact (hdrop (rest ++ more)).trans (congrArg (· ++ more) (hdrop rest).symm)

theorem records_append {content : Bytes} (h : ¬IsPartialMark content) (more : Bytes) :
    Csv.records (content ++ more) = Csv.Scan.start.completed (dropMark content) ++
      (Csv.Scan.start.after (dropMark content)).run more := by
  rw [Csv.records, dropMark_append h, Csv.Scan.run_append]

theorem recordKeys_append {s : Schema} {a : List Csv.Record} {keys : List RowKey}
    (h : recordKeys s a = .ok keys) (b : List Csv.Record) :
    recordKeys s (a ++ b) = (recordKeys s b).map (keys ++ ·) := by
  induction a generalizing keys with
  | nil =>
    cases h
    rw [List.nil_append]
    cases recordKeys s b <;> rfl
  | cons r a ih =>
    rw [recordKeys] at h
    rw [List.cons_append, recordKeys]
    cases hr : recordKey s r with
    | error e => simp [hr] at h
    | ok k =>
      cases ha : recordKeys s a with
      | error e => simp [hr, ha, Except.map] at h
      | ok ks =>
        simp only [hr, ha, Except.map, Except.ok.injEq] at h
        subst h
        dsimp only
        rw [ih ha]
        cases recordKeys s b <;> rfl

theorem keysIn_eq_ok_iff {s : Schema} {content : Bytes} (hne : content ≠ []) {keys : List RowKey} :
    keysIn s content = .ok keys ↔
      ∃ header rows, Csv.records content = header :: rows ∧ header.texts? = some s.header ∧
        recordKeys s rows = .ok keys := by
  have he : content.isEmpty = false := by simpa using hne
  rw [keysIn, he, if_neg Bool.false_ne_true, checkHeader]
  cases hr : Csv.records content with
  | nil => simp
  | cons r rows =>
    cases ht : r.texts? with
    | none => simp [ht]
    | some found =>
      by_cases hf : found = s.header
      · simp [ht, hf, and_assoc]
      · simp [ht, hf]

theorem length_of_texts? {r : Csv.Record} {texts : List String} (h : r.texts? = some texts) :
    texts.length = r.fields.length := by
  unfold Csv.Record.texts? at h
  generalize r.fields = fields at h
  induction fields generalizing texts with
  | nil => cases h; rfl
  | cons f fields ih =>
    cases hf : Bytes.text? f with
    | none => simp [List.mapM_cons, hf] at h
    | some t =>
      cases hfs : fields.mapM Bytes.text? with
      | none => simp [List.mapM_cons, hf, hfs] at h
      | some ts =>
        simp only [List.mapM_cons, hf, hfs] at h
        cases h
        simp [ih hfs]

theorem not_isPartialMark_of_keysIn {s : Schema} {content : Bytes} (hne : content ≠ [])
    {keys : List RowKey} (h : keysIn s content = .ok keys) : ¬IsPartialMark content := by
  obtain ⟨header, rows, hr, ht, -⟩ := (keysIn_eq_ok_iff hne).mp h
  have hl : 2 ≤ header.fields.length := length_of_texts? ht ▸ s.two_le_header_length
  rintro (rfl | rfl | rfl)
  · exact hne rfl
  · cases hr; exact absurd hl (by decide)
  · cases hr; exact absurd hl (by decide)

theorem texts?_written (line : Nat) (texts : List String) :
    Csv.Record.texts? ⟨line, texts.map Bytes.ofText⟩ = some texts :=
  Bytes.mapM_text?_ofText texts

theorem recordKey_written (s : Schema) (line : Nat) (r : Row) :
    recordKey s ⟨line, (s.record r).map Bytes.ofText⟩ = .ok (s.keyOf r.key) := by
  simp only [recordKey, texts?_written, Schema.parseKey_record]

theorem completed_rowLines (s : Schema) (rows : List Row) {t : Csv.Scan} (ht : t.Blank) :
    recordKeys s (t.completed (rows.flatMap (rowLine s))) = .ok (rows.map fun r => s.keyOf r.key) ∧
      (t.after (rows.flatMap (rowLine s))).Blank := by
  induction rows generalizing t with
  | nil => exact ⟨rfl, ht⟩
  | cons r rows ih =>
    have hl : 2 ≤ (s.record r).length := s.record_length r ▸ s.two_le_header_length
    obtain ⟨hrec, hblank⟩ := Csv.Scan.completed_writeRecord ht hl
    obtain ⟨hkeys, hend⟩ := ih hblank
    have hkey : recordKeys s (t.completed (rowLine s r)) = .ok [s.keyOf r.key] := by
      rw [rowLine, hrec, recordKeys, recordKey_written]
      rfl
    rw [List.flatMap_cons, Csv.Scan.completed_append, Csv.Scan.after_append]
    refine ⟨?_, hend⟩
    rw [recordKeys_append hkey, rowLine, hkeys]
    rfl

theorem texts?_rowLines (s : Schema) (rows : List Row) {t : Csv.Scan} (ht : t.Blank) :
    (t.completed (rows.flatMap (rowLine s))).map Csv.Record.texts? =
      rows.map fun r => some (s.record r) := by
  induction rows generalizing t with
  | nil => rfl
  | cons r rows ih =>
    have hl : 2 ≤ (s.record r).length := s.record_length r ▸ s.two_le_header_length
    obtain ⟨hrec, hblank⟩ := Csv.Scan.completed_writeRecord ht hl
    have hrest := ih hblank
    rw [List.flatMap_cons, Csv.Scan.completed_append, rowLine, hrec, List.map_append, hrest]
    exact congrArg (· :: _) (texts?_written _ _)

theorem terminated_nil : Terminated [] := Csv.Scan.start_blank

theorem Terminated.not_isPartialMark {content : Bytes} (ht : Terminated content)
    (hne : content ≠ []) : ¬IsPartialMark content := by
  have hmode : (Csv.Scan.start.after (dropMark content)).mode = .recordStart := ht.mode
  rintro (rfl | rfl | rfl)
  · exact hne rfl
  · cases hmode
  · cases hmode

/--
These bytes add just these rows. Behind content that ends between two records, their records are
read after all those that were there.
-/
structure Adds (s : Schema) (rows : List Row) (added : Bytes) : Prop where
  alone : (Csv.Scan.start.run added).map Csv.Record.texts? = rows.map fun r => some (s.record r)
  behind : ∀ content, content ≠ [] → Terminated content →
    (Csv.records (content ++ added)).map Csv.Record.texts? =
      (Csv.records content).map Csv.Record.texts? ++ rows.map fun r => some (s.record r)

theorem Adds.length_alone {s : Schema} {rows : List Row} {added : Bytes} (h : Adds s rows added) :
    (Csv.Scan.start.run added).length = rows.length := by
  rw [← List.length_map, h.alone, List.length_map]

theorem Adds.length_behind {s : Schema} {rows : List Row} {added content : Bytes}
    (h : Adds s rows added) (hne : content ≠ []) (ht : Terminated content) :
    (Csv.records (content ++ added)).length = (Csv.records content).length + rows.length := by
  rw [← List.length_map, h.behind content hne ht, List.length_append, List.length_map,
    List.length_map]

theorem adds_rowLines (s : Schema) (rows : List Row) : Adds s rows (rows.flatMap (rowLine s)) := by
  have hrun {t : Csv.Scan} (ht : t.Blank) :
      (t.run (rows.flatMap (rowLine s))).map Csv.Record.texts? =
        rows.map fun r => some (s.record r) := by
    rw [Csv.Scan.run_eq, (completed_rowLines s rows ht).2.finish, List.append_nil,
      texts?_rowLines s rows ht]
  refine ⟨hrun Csv.Scan.start_blank, fun content hne ht => ?_⟩
  rw [records_append (ht.not_isPartialMark hne), List.map_append, hrun ht, Csv.records,
    Csv.Scan.run_eq, ht.finish, List.append_nil]

theorem completed_headerLine (s : Schema) {t : Csv.Scan} (ht : t.Blank) :
    t.completed (headerLine s) = [⟨t.startLine, s.header.map Bytes.ofText⟩] ∧
      (t.after (headerLine s)).Blank :=
  Csv.Scan.completed_writeRecord ht s.two_le_header_length

theorem headerLine_ne_nil (s : Schema) : headerLine s ≠ [] := by simp [headerLine, Csv.writeRecord]

theorem headerLine_eq_cons (s : Schema) : ∃ rest, headerLine s = 0x51 :: rest := by
  cases s <;> exact ⟨_, rfl⟩

theorem dropMark_headerLine (s : Schema) : dropMark (headerLine s) = headerLine s := by
  obtain ⟨rest, h⟩ := headerLine_eq_cons s
  rw [h]; rfl

theorem terminated_headerLine (s : Schema) : Terminated (headerLine s) := by
  rw [Terminated, dropMark_headerLine]
  exact (completed_headerLine s Csv.Scan.start_blank).2

theorem keysIn_headerLine (s : Schema) : keysIn s (headerLine s) = .ok [] := by
  obtain ⟨hrec, hblank⟩ := completed_headerLine s Csv.Scan.start_blank
  refine (keysIn_eq_ok_iff (headerLine_ne_nil s)).mpr
    ⟨⟨Csv.Scan.start.startLine, _⟩, [], ?_, texts?_written _ _, rfl⟩
  rw [Csv.records, dropMark_headerLine, Csv.Scan.run_eq, hrec, hblank.finish]
  rfl

theorem keysIn_append_rows {s : Schema} {content : Bytes} (hne : content ≠ []) {keys : List RowKey}
    (h : keysIn s content = .ok keys) (ht : Terminated content) (rows : List Row) :
    keysIn s (content ++ rows.flatMap (rowLine s)) =
        .ok (keys ++ rows.map fun r => s.keyOf r.key) ∧
      Terminated (content ++ rows.flatMap (rowLine s)) := by
  have hmark := not_isPartialMark_of_keysIn hne h
  obtain ⟨header, records, hr, htexts, hkeys⟩ := (keysIn_eq_ok_iff hne).mp h
  obtain ⟨hrows, hend⟩ := completed_rowLines s rows ht
  rw [Csv.records, Csv.Scan.run_eq, ht.finish, List.append_nil] at hr
  constructor
  · have hne' : content ++ rows.flatMap (rowLine s) ≠ [] := by simp [hne]
    let left := Csv.Scan.start.after (dropMark content)
    refine (keysIn_eq_ok_iff hne').mpr
      ⟨header, records ++ left.completed (rows.flatMap (rowLine s)), ?_, htexts, ?_⟩
    · rw [records_append hmark, hr, List.cons_append, Csv.Scan.run_eq, hend.finish, List.append_nil]
    · rw [recordKeys_append hkeys, hrows]
      rfl
  · rw [Terminated, dropMark_append hmark, Csv.Scan.after_append]
    exact hend

def sheet (s : Schema) (rows : List Row) : Bytes := headerLine s ++ rows.flatMap (rowLine s)

theorem sheet_append (s : Schema) (rows more : List Row) :
    sheet s rows ++ more.flatMap (rowLine s) = sheet s (rows ++ more) := by
  rw [sheet, sheet, List.append_assoc, List.flatMap_append]

theorem sheet_ne_nil (s : Schema) (rows : List Row) : sheet s rows ≠ [] := by
  rw [sheet]
  exact List.append_ne_nil_of_left_ne_nil (headerLine_ne_nil s) _

theorem keysIn_sheet (s : Schema) (rows : List Row) :
    keysIn s (sheet s rows) = .ok (rows.map fun r => s.keyOf r.key) :=
  (keysIn_append_rows (headerLine_ne_nil s) (keysIn_headerLine s) (terminated_headerLine s) rows).1

theorem dropMark_sheet (s : Schema) (rows : List Row) : dropMark (sheet s rows) = sheet s rows := by
  obtain ⟨rest, h⟩ := headerLine_eq_cons s
  rw [sheet, h]
  rfl

theorem completed_sheet (s : Schema) (rows : List Row) :
    Csv.Scan.start.completed (sheet s rows) = ⟨1, s.header.map Bytes.ofText⟩ ::
        (Csv.Scan.start.after (headerLine s)).completed (rows.flatMap (rowLine s)) ∧
      (Csv.Scan.start.after (sheet s rows)).Blank := by
  obtain ⟨hrec, hblank⟩ := completed_headerLine s Csv.Scan.start_blank
  rw [sheet, Csv.Scan.completed_append, Csv.Scan.after_append, hrec]
  exact ⟨rfl, (completed_rowLines s rows hblank).2⟩

theorem keysIn_sheet_append_iff {s : Schema} {rows : List Row} {more : Bytes} {keys : List RowKey} :
    keysIn s (sheet s rows ++ more) = .ok keys ↔
      ∃ last, recordKeys s ((Csv.Scan.start.after (sheet s rows)).run more) = .ok last ∧
        keys = (rows.map fun r => s.keyOf r.key) ++ last := by
  obtain ⟨hcompleted, -⟩ := completed_sheet s rows
  have hrows := (completed_rowLines s rows (completed_headerLine s Csv.Scan.start_blank).2).1
  have hmark := not_isPartialMark_of_keysIn (sheet_ne_nil s rows) (keysIn_sheet s rows)
  rw [keysIn_eq_ok_iff (List.append_ne_nil_of_left_ne_nil (sheet_ne_nil s rows) more),
    records_append hmark, dropMark_sheet, hcompleted, List.cons_append]
  constructor
  · rintro ⟨header, records, hr, -, hkeys⟩
    obtain ⟨-, rfl⟩ := List.cons.inj hr
    rw [recordKeys_append hrows] at hkeys
    cases hlast : recordKeys s ((Csv.Scan.start.after (sheet s rows)).run more) with
    | error e => rw [hlast] at hkeys; cases hkeys
    | ok last =>
      rw [hlast] at hkeys
      exact ⟨last, rfl, (Except.ok.inj hkeys).symm⟩
  · rintro ⟨last, hlast, rfl⟩
    refine ⟨_, _, rfl, texts?_written _ _, ?_⟩
    rw [recordKeys_append hrows, hlast]
    rfl

end CalibratedSweep.Sink
