import CalibratedSweep.Csv.Reader
import CalibratedSweep.Proofs.Text.Bytes
/-!
Written records are read back. A scan may be split at any byte, into the records completed so far
and the scan that is left. A blank scan completes a written record of several fields, and nothing
else, and is blank again.
-/

namespace CalibratedSweep.Csv

namespace Scan

def after (s : Scan) : Bytes → Scan
  | [] => s
  | b :: rest => (s.step b).1.after rest

def completed (s : Scan) : Bytes → List Record
  | [] => []
  | b :: rest => (s.step b).2.toList ++ (s.step b).1.completed rest

theorem run_cons (s : Scan) (b : UInt8) (rest : Bytes) :
    s.run (b :: rest) = (s.step b).2.toList ++ (s.step b).1.run rest := by
  rw [run]
  split <;> rename_i h <;> simp [h]

theorem run_append (s : Scan) (a b : Bytes) :
    s.run (a ++ b) = s.completed a ++ (s.after a).run b := by
  induction a generalizing s with
  | nil => rfl
  | cons x a ih => rw [List.cons_append, run_cons, ih, completed, after, List.append_assoc]

theorem run_eq (s : Scan) (a : Bytes) : s.run a = s.completed a ++ (s.after a).finish := by
  have h := run_append s a []
  rwa [List.append_nil] at h

theorem after_append (s : Scan) (a b : Bytes) : s.after (a ++ b) = (s.after a).after b := by
  induction a generalizing s with
  | nil => rfl
  | cons x a ih => exact ih _

theorem completed_append (s : Scan) (a b : Bytes) :
    s.completed (a ++ b) = s.completed a ++ (s.after a).completed b := by
  induction a generalizing s with
  | nil => rfl
  | cons x a ih => rw [List.cons_append, completed, ih, completed, after, List.append_assoc]

/-- Nothing of a record has been read. -/
structure Blank (s : Scan) : Prop where
  mode : s.mode = .recordStart
  field : s.field = []
  fields : s.fields = []

theorem start_blank : start.Blank := ⟨rfl, rfl, rfl⟩

theorem Blank.finish {s : Scan} (h : s.Blank) : s.finish = [] := by
  simp [Scan.finish, h.mode]

theorem nextRecord_blank (s : Scan) : s.nextRecord.Blank := ⟨rfl, rfl, rfl⟩

def Proper (s : Scan) : Prop := s.mode = .recordStart → s.Blank

theorem Blank.proper {s : Scan} (h : s.Blank) : s.Proper := fun _ => h

theorem unquoted_proper (s : Scan) (b : UInt8) : (s.unquoted b).1.Proper := by
  unfold unquoted
  split
  · intro h; simp [nextField] at h
  · split
    · exact (nextRecord_blank s).proper
    · intro h; simp [add] at h

theorem fieldStart_proper (s : Scan) (b : UInt8) : (s.fieldStart b).1.Proper := by
  unfold fieldStart
  split
  · intro h; simp at h
  · exact unquoted_proper s b

theorem step_proper {s : Scan} (h : s.Proper) (b : UInt8) : (s.step b).1.Proper := by
  have hline : Proper (if b = lineFeed then { s with line := s.line + 1 } else s) := by
    split
    · intro hm; exact ⟨hm, (h hm).field, (h hm).fields⟩
    · exact h
  simp only [step]
  split
  · split
    · exact hline
    · exact fieldStart_proper _ b
  · exact fieldStart_proper _ b
  · exact unquoted_proper _ b
  · split <;> intro hm <;> simp [add] at hm
  · split
    · intro hm; simp [add] at hm
    · exact unquoted_proper _ b

theorem after_proper {s : Scan} (h : s.Proper) (a : Bytes) : (s.after a).Proper := by
  induction a generalizing s with
  | nil => exact h
  | cons b a ih => exact ih (step_proper h b)

/-- The bytes lead from one scan to another within one record. -/
structure Reads (s : Scan) (a : Bytes) (t : Scan) : Prop where
  after : s.after a = t
  completed : s.completed a = []

theorem Reads.refl (s : Scan) : s.Reads [] s := ⟨rfl, rfl⟩

theorem Reads.cons {s t u : Scan} {b : UInt8} {a : Bytes} (hb : s.step b = (t, none))
    (h : t.Reads a u) : s.Reads (b :: a) u := by
  constructor
  · rw [Scan.after, hb]; exact h.after
  · rw [Scan.completed, hb]; exact h.completed

theorem Reads.trans {s t u : Scan} {a b : Bytes} (ha : s.Reads a t) (hb : t.Reads b u) :
    s.Reads (a ++ b) u := by
  constructor
  · rw [after_append, ha.after, hb.after]
  · rw [completed_append, ha.completed, ha.after, hb.completed, List.append_nil]

theorem Reads.completed_append {s t : Scan} {a : Bytes} (ha : s.Reads a t) (b : Bytes) :
    s.completed (a ++ b) = t.completed b := by
  rw [Scan.completed_append, ha.completed, ha.after, List.nil_append]

theorem Reads.after_append {s t : Scan} {a : Bytes} (ha : s.Reads a t) (b : Bytes) :
    s.after (a ++ b) = t.after b := by
  rw [Scan.after_append, ha.after]

theorem step_comma {s : Scan} (h : s.mode ≠ .quoted) : s.step comma = (s.nextField, none) := by
  cases hm : s.mode <;> simp_all [step, unquoted, Scan.fieldStart, isLineEnd, comma, lineFeed,
    carriageReturn, quote]

theorem step_lineFeed {s : Scan} (hq : s.mode ≠ .quoted) (hr : s.mode ≠ .recordStart) :
    s.step lineFeed = ({ s with line := s.line + 1 }.nextRecord, some s.record) := by
  cases hm : s.mode <;> simp_all [step, unquoted, Scan.fieldStart, isLineEnd, comma, lineFeed,
    carriageReturn, quote, record, closeField]

theorem step_plain {s : Scan} (h : s.mode ≠ .quoted) {b : UInt8} (hb : isSpecial b = false) :
    s.step b = (s.add b .plain, none) := by
  simp only [isSpecial, Bool.or_eq_false_iff, beq_eq_false_iff_ne, ne_eq] at hb
  obtain ⟨⟨⟨hc, hq⟩, hl⟩, hr⟩ := hb
  cases hm : s.mode <;> simp_all [step, unquoted, Scan.fieldStart, isLineEnd]

theorem step_quoted {s : Scan} (h : s.mode = .quoted) {b : UInt8} (hb : b ≠ quote) :
    ∃ line, s.step b = (⟨.quoted, b :: s.field, s.fields, line, s.startLine⟩, none) := by
  by_cases hl : b = lineFeed
  · exact ⟨s.line + 1, by subst hl; simp [step, h, hb, add]⟩
  · exact ⟨s.line, by simp [step, h, hb, hl, add]⟩

theorem step_quote {s : Scan} (h : s.mode = .quoted) :
    s.step quote = ({ s with mode := .quoteSeen }, none) := by
  simp [step, h, quote, lineFeed]

theorem step_second_quote {s : Scan} (h : s.mode = .quoteSeen) :
    s.step quote = (s.add quote .quoted, none) := by
  simp [step, h, quote, lineFeed]

def AtField (s : Scan) : Prop := s.mode = .recordStart ∨ s.mode = .fieldStart

theorem step_opening_quote {s : Scan} (h : s.AtField) :
    s.step quote = ({ s with mode := .quoted }, none) := by
  obtain h | h := h <;> simp [step, h, Scan.fieldStart, isLineEnd, quote, lineFeed, carriageReturn]

theorem reads_plain {s : Scan} (h : s.mode = .plain) {a : Bytes} (ha : a.any isSpecial = false) :
    s.Reads a { s with field := a.reverse ++ s.field } := by
  induction a generalizing s with
  | nil => exact .refl s
  | cons b a ih =>
    rw [List.any_cons, Bool.or_eq_false_iff] at ha
    have hstep := step_plain (s := s) (by simp [h]) ha.1
    have hrest := ih (s := s.add b .plain) rfl ha.2
    have hend : { s.add b .plain with field := a.reverse ++ (s.add b .plain).field } =
        { s with field := (b :: a).reverse ++ s.field } := by simp [add, h]
    exact .cons hstep (hend ▸ hrest)

theorem reads_unquoted {s : Scan} (h : s.mode ≠ .quoted) {a : Bytes} (hne : a ≠ [])
    (ha : a.any isSpecial = false) :
    s.Reads a { s with mode := .plain, field := a.reverse ++ s.field } := by
  cases a with
  | nil => exact absurd rfl hne
  | cons b a =>
    rw [List.any_cons, Bool.or_eq_false_iff] at ha
    have hrest := reads_plain (s := s.add b .plain) rfl ha.2
    exact .cons (step_plain h ha.1) (by simpa [add] using hrest)

theorem reads_inside_quotes {s : Scan} (h : s.mode = .quoted) {a : Bytes} (ha : quote ∉ a) :
    ∃ line, s.Reads a ⟨.quoted, a.reverse ++ s.field, s.fields, line, s.startLine⟩ := by
  induction a generalizing s with
  | nil => exact ⟨s.line, by simpa [← h] using Reads.refl s⟩
  | cons b a ih =>
    rw [List.mem_cons, not_or] at ha
    obtain ⟨line, hstep⟩ := step_quoted h (Ne.symm ha.1)
    obtain ⟨line', hrest⟩ := ih (s := ⟨.quoted, b :: s.field, s.fields, line, s.startLine⟩) rfl ha.2
    exact ⟨line', .cons hstep (by simpa using hrest)⟩

theorem reads_doubleQuotes {s : Scan} (h : s.mode = .quoted) (a : Bytes) :
    ∃ line, s.Reads (doubleQuotes a) ⟨.quoted, a.reverse ++ s.field, s.fields, line, s.startLine⟩ := by
  induction a generalizing s with
  | nil => exact ⟨s.line, by simpa [← h, doubleQuotes] using Reads.refl s⟩
  | cons b a ih =>
    by_cases hb : b = quote
    · subst hb
      obtain ⟨line, hrest⟩ := ih (s := { s with mode := .quoteSeen }.add quote .quoted) rfl
      refine ⟨line, ?_⟩
      rw [doubleQuotes, if_pos rfl]
      exact .cons (step_quote h) (.cons (step_second_quote rfl) (by simpa [add] using hrest))
    · obtain ⟨line, hstep⟩ := step_quoted h hb
      obtain ⟨line', hrest⟩ := ih (s := ⟨.quoted, b :: s.field, s.fields, line, s.startLine⟩) rfl
      refine ⟨line', ?_⟩
      rw [doubleQuotes, if_neg hb]
      exact .cons hstep (by simpa using hrest)

theorem reads_writeField {s : Scan} (h : s.AtField) (hf : s.field = []) (a : Bytes) :
    ∃ mode line, s.Reads (writeField a) ⟨mode, a.reverse, s.fields, line, s.startLine⟩ ∧
      mode ≠ .quoted ∧ (mode = .recordStart → s.mode = .recordStart) := by
  have hq : s.mode ≠ .quoted := by obtain h | h := h <;> simp [h]
  by_cases ha : a.any isSpecial
  · obtain ⟨line, hread⟩ := reads_doubleQuotes (s := { s with mode := .quoted }) rfl a
    refine ⟨.quoteSeen, line, ?_, by simp, by simp⟩
    rw [writeField, if_pos ha, List.cons_append]
    refine .cons (step_opening_quote h) (hread.trans ?_)
    exact .cons (step_quote rfl) (by simpa [hf] using Reads.refl _)
  · rw [writeField, if_neg ha]
    rw [Bool.not_eq_true] at ha
    by_cases hne : a = []
    · subst hne
      refine ⟨s.mode, s.line, ⟨?_, rfl⟩, hq, id⟩
      rw [after, List.reverse_nil, ← hf]
    · refine ⟨.plain, s.line, ?_, by simp, by simp⟩
      simpa [hf] using reads_unquoted hq hne ha

theorem completed_comma {s : Scan} (h : s.mode ≠ .quoted) (a : Bytes) :
    s.completed (comma :: a) = s.nextField.completed a := by
  rw [completed, step_comma h]; rfl

theorem after_comma {s : Scan} (h : s.mode ≠ .quoted) (a : Bytes) :
    s.after (comma :: a) = s.nextField.after a := by
  rw [after, step_comma h]

theorem completed_lineFeed {s : Scan} (hq : s.mode ≠ .quoted) (hr : s.mode ≠ .recordStart) :
    s.completed [lineFeed] = [s.record] := by
  rw [completed, step_lineFeed hq hr]; rfl

theorem after_lineFeed {s : Scan} (hq : s.mode ≠ .quoted) (hr : s.mode ≠ .recordStart) :
    (s.after [lineFeed]).Blank := by
  rw [after, step_lineFeed hq hr]; exact nextRecord_blank _

/-- Written fields are read within one record, whose last field is still open behind them. -/
theorem reads_writeFields {s : Scan} (h : s.AtField) (hf : s.field = []) (f : Bytes)
    (fields : List Bytes) :
    ∃ u, s.Reads (writeFields (f :: fields)) u ∧ u.mode ≠ .quoted ∧
      (u.mode = .recordStart → s.mode = .recordStart ∧ fields = []) ∧
      u.record = ⟨s.startLine, s.fields.reverse ++ f :: fields⟩ := by
  induction fields generalizing s f with
  | nil =>
    obtain ⟨mode, line, hread, hq, hr⟩ := reads_writeField h hf f
    exact ⟨_, hread, hq, fun hm => ⟨hr hm, rfl⟩, by simp [record, closeField]⟩
  | cons g fields ih =>
    obtain ⟨mode, line, hread, hq, -⟩ := reads_writeField h hf f
    have hcomma := step_comma (s := ⟨mode, f.reverse, s.fields, line, s.startLine⟩) hq
    obtain ⟨u, hrest, hqu, hru, hrec⟩ :=
      ih (s := nextField ⟨mode, f.reverse, s.fields, line, s.startLine⟩) (.inr rfl) rfl g
    refine ⟨u, hread.trans (.cons hcomma hrest), hqu, fun hm => ?_, ?_⟩
    · cases (hru hm).1
    · rw [hrec]
      simp [nextField, closeField]

theorem Reads.completed_line {s u : Scan} {a : Bytes} (h : s.Reads a u) (hq : u.mode ≠ .quoted)
    (hr : u.mode ≠ .recordStart) :
    s.completed (a ++ [lineFeed]) = [u.record] ∧ (s.after (a ++ [lineFeed])).Blank := by
  rw [h.completed_append, h.after_append, completed_lineFeed hq hr]
  exact ⟨rfl, after_lineFeed hq hr⟩

theorem completed_writeFields {s : Scan} (h : s.mode = .fieldStart) (hf : s.field = []) (f : Bytes)
    (fields : List Bytes) :
    s.completed (writeFields (f :: fields) ++ [lineFeed]) =
        [⟨s.startLine, s.fields.reverse ++ f :: fields⟩] ∧
      (s.after (writeFields (f :: fields) ++ [lineFeed])).Blank := by
  obtain ⟨u, hread, hq, hr, hrec⟩ := reads_writeFields (.inr h) hf f fields
  have hr' : u.mode ≠ .recordStart := fun hm => by simp [(hr hm).1] at h
  rw [← hrec]
  exact hread.completed_line hq hr'

theorem completed_writeRecord {s : Scan} (h : s.Blank) {fields : List String}
    (hl : 2 ≤ fields.length) :
    s.completed (writeRecord fields) = [⟨s.startLine, fields.map Bytes.ofText⟩] ∧
      (s.after (writeRecord fields)).Blank := by
  obtain ⟨f, g, fields, rfl⟩ : ∃ f g rest, fields = f :: g :: rest := by
    match fields, hl with
    | f :: g :: rest, _ => exact ⟨f, g, rest, rfl⟩
  obtain ⟨u, hread, hq, hr, hrec⟩ := reads_writeFields (.inl h.mode) h.field (Bytes.ofText f)
    ((g :: fields).map Bytes.ofText)
  have hr' : u.mode ≠ .recordStart := fun hm => by simpa using (hr hm).2
  rw [h.fields] at hrec
  have hline := hread.completed_line hq hr'
  rwa [hrec] at hline

/-- A record that is written within another one goes on with its last field. -/
theorem completed_writeRecord_glued {s : Scan} (hq : s.mode ≠ .quoted) {f : String} (hne : f ≠ "")
    (hf : (Bytes.ofText f).any isSpecial = false) (g : String) (fields : List String) :
    s.completed (writeRecord (f :: g :: fields)) = [⟨s.startLine, s.fields.reverse ++
        (s.field.reverse ++ Bytes.ofText f) :: (g :: fields).map Bytes.ofText⟩] ∧
      (s.after (writeRecord (f :: g :: fields))).Blank := by
  have hbytes : Bytes.ofText f ≠ [] := fun he => hne (Bytes.ofText_injective he)
  have hread := reads_unquoted hq hbytes hf
  let t : Scan := { s with mode := .plain, field := (Bytes.ofText f).reverse ++ s.field }
  have hrest := completed_writeFields (s := t.nextField) rfl rfl (Bytes.ofText g)
    (fields.map Bytes.ofText)
  have ht : t.mode ≠ .quoted := by simp [t]
  rw [writeRecord, List.map_cons, List.map_cons, writeFields, writeField, hf,
    if_neg Bool.false_ne_true, List.append_assoc, hread.completed_append, hread.after_append,
    List.cons_append, completed_comma ht, after_comma ht]
  · simpa [t, nextField, closeField] using hrest
  · simp

theorem quote_not_mem_writeFields {fields : List Bytes}
    (h : ∀ f ∈ fields, f.any isSpecial = false) : quote ∉ writeFields fields := by
  have hfield {f : Bytes} (hf : f.any isSpecial = false) : quote ∉ writeField f := by
    rw [writeField, hf, if_neg Bool.false_ne_true]
    intro hm
    exact List.any_eq_false.mp hf quote hm rfl
  induction fields with
  | nil => simp [writeFields]
  | cons f fields ih =>
    have hf := hfield (h f (by simp))
    cases fields with
    | nil => exact hf
    | cons g fields =>
      have hrest := ih fun f hm => h f (List.mem_cons_of_mem _ hm)
      rw [writeFields, List.mem_append, List.mem_cons, not_or, not_or]
      · exact ⟨hf, by decide, hrest⟩
      · simp

/-- A record without special characters stays inside quotes that were open before it. -/
theorem reads_writeRecord_quoted {s : Scan} (h : s.mode = .quoted) {fields : List String}
    (hf : ∀ f ∈ fields, (Bytes.ofText f).any isSpecial = false) :
    ∃ line, s.Reads (writeRecord fields)
      ⟨.quoted, (writeRecord fields).reverse ++ s.field, s.fields, line, s.startLine⟩ := by
  apply reads_inside_quotes h
  rw [writeRecord, List.mem_append, not_or]
  constructor
  · apply quote_not_mem_writeFields
    intro f hm
    obtain ⟨text, ht, rfl⟩ := List.mem_map.mp hm
    exact hf text ht
  · decide

end Scan

end CalibratedSweep.Csv
