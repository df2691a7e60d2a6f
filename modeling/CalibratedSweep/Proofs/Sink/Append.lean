import CalibratedSweep.Proofs.Decimal.ScoreText
import CalibratedSweep.Proofs.Sink.File
/-!
Reopening a result file. Its content stays in front of the rows written then, and all rows are read
back if and only if that content ends between two records. Otherwise the first row runs into the
last record: it makes that record too long, or vanishes inside its open quotes.
-/

namespace CalibratedSweep

namespace Csv

theorem not_any_isSpecial {p : Char → Bool} (hc : p ',' = false) (hq : p '"' = false)
    (hl : p '\n' = false) (hr : p '\r' = false) {s : String} (h : ∀ c ∈ s.toList, p c = true) :
    (Bytes.ofText s).any isSpecial = false := by
  have key (b : UInt8) (hb : b.toNat < 128) (x : Char) (hx : b.toNat = x.toNat) (hp : p x = false) :
      b ∉ Bytes.ofText s := by
    intro hm
    obtain ⟨c, hm, hcb⟩ := Bytes.mem_ofText hm hb
    have hcx : c = x := Char.toNat_inj.mp (hcb.trans hx)
    have hpc := h c hm
    rw [hcx, hp] at hpc
    cases hpc
  rw [List.any_eq_false]
  intro b hm hb
  simp only [isSpecial, Bool.or_eq_true, beq_iff_eq] at hb
  obtain ((rfl | rfl) | rfl) | rfl := hb
  · exact key comma (by decide) ',' rfl hc hm
  · exact key quote (by decide) '"' rfl hq hm
  · exact key lineFeed (by decide) '\n' rfl hl hm
  · exact key carriageReturn (by decide) '\r' rfl hr hm

end Csv

namespace Schema

open Csv (isSpecial)

theorem number_plain {n : Nat} {s : String} (h : s.toList = Numeral.digits n) :
    (Bytes.ofText s).any isSpecial = false := by
  apply Csv.not_any_isSpecial (p := Char.isDigit) rfl rfl rfl rfl
  intro c hc
  exact Numeral.isDigit_of_mem_digits (h ▸ hc)

theorem scoreText_plain (x : Float) : (Bytes.ofText (Decimal.scoreText x)).any isSpecial = false :=
  Csv.not_any_isSpecial (p := Decimal.isScoreChar) rfl rfl rfl rfl
    fun _ hc => Decimal.isScoreChar_of_mem_scoreText hc

theorem record_plain (s : Schema) {r : Row}
    (hq : (Bytes.ofText r.configuration.queue).any isSpecial = false) :
    ∀ f ∈ s.record r, (Bytes.ofText f).any isSpecial = false := by
  have h32 (n : UInt32) := number_plain (Numeral.toList_toString_uint32 n)
  have h64 (n : UInt64) := number_plain (Numeral.toList_toString_uint64 n)
  intro f hf
  rw [record, List.mem_append, List.mem_append] at hf
  obtain (hf | hf) | hf := hf
  · simp only [List.mem_cons, List.not_mem_nil, or_false] at hf
    obtain rfl | rfl | rfl | rfl | rfl | rfl := hf
    · exact hq
    · exact h32 _
    · exact h32 _
    · exact h64 _
    · exact h64 _
    · exact h32 _
  · split at hf
    · rw [List.mem_singleton.mp hf]
      exact h64 _
    · cases hf
  · simp only [List.mem_cons, List.not_mem_nil, or_false] at hf
    obtain rfl | rfl := hf <;> exact scoreText_plain _

end Schema

namespace Sink

open Csv (dropMark Scan)
open Workspace (Holds oneFile sinkFile view view_oneFile)

theorem exists_new_queue (keys : List RowKey) : ∃ queue : String, queue ≠ "" ∧
    (Bytes.ofText queue).any Csv.isSpecial = false ∧ ∀ k ∈ keys, k.queue ≠ queue := by
  obtain ⟨n, hn⟩ : ∃ n, ∀ k ∈ keys, k.queue.length < n := by
    induction keys with
    | nil => exact ⟨0, by simp⟩
    | cons k keys ih =>
      obtain ⟨n, hn⟩ := ih
      refine ⟨max n (k.queue.length + 1), fun k' hk' => ?_⟩
      obtain rfl | hk' := List.mem_cons.mp hk'
      · omega
      · have hk'' := hn k' hk'
        omega
  have hlength : (String.ofList (List.replicate (n + 1) 'A')).length = n + 1 := by
    rw [String.length_ofList, List.length_replicate]
  refine ⟨String.ofList (List.replicate (n + 1) 'A'), ?_, ?_, ?_⟩
  · intro he
    rw [he] at hlength
    cases hlength
  · apply Csv.not_any_isSpecial (p := (· == 'A')) rfl rfl rfl rfl
    intro c hc
    rw [String.toList_ofList] at hc
    simp [List.eq_of_mem_replicate hc]
  · intro k hk he
    have hk' := hn k hk
    rw [he, hlength] at hk'
    omega

theorem length_of_recordKey {s : Schema} {r : Csv.Record} {k : RowKey}
    (h : recordKey s r = .ok k) : r.fields.length = s.header.length := by
  unfold recordKey at h
  cases ht : r.texts? with
  | none => rw [ht] at h; cases h
  | some fields =>
    rw [ht] at h
    cases hp : s.parseKey fields with
    | error e => simp [hp] at h
    | ok k' => rw [← length_of_texts? ht, Schema.length_of_parseKey hp]

theorem recordKeys_cons_iff {s : Schema} {r : Csv.Record} {rows : List Csv.Record}
    {keys : List RowKey} : recordKeys s (r :: rows) = .ok keys ↔
      ∃ k rest, recordKey s r = .ok k ∧ recordKeys s rows = .ok rest ∧ keys = k :: rest := by
  rw [recordKeys]
  cases recordKey s r <;> cases recordKeys s rows <;> simp [Except.map, eq_comm]

theorem recordKeys_concat_iff {s : Schema} {r : Csv.Record} {rows : List Csv.Record}
    {keys : List RowKey} : recordKeys s (rows ++ [r]) = .ok keys ↔
      ∃ front k, recordKeys s rows = .ok front ∧ recordKey s r = .ok k ∧ keys = front ++ [k] := by
  induction rows generalizing keys with
  | nil =>
    rw [List.nil_append, recordKeys_cons_iff]
    constructor
    · rintro ⟨k, rest, hk, hrest, rfl⟩
      cases hrest
      exact ⟨[], k, rfl, hk, rfl⟩
    · rintro ⟨front, k, hfront, hk, rfl⟩
      cases hfront
      exact ⟨k, [], hk, rfl, rfl⟩
  | cons x rows ih =>
    simp only [List.cons_append, recordKeys_cons_iff, ih]
    constructor
    · rintro ⟨kx, rest, hx, ⟨front, k, hfront, hk, rfl⟩, rfl⟩
      exact ⟨kx :: front, k, ⟨kx, front, hx, hfront, rfl⟩, hk, rfl⟩
    · rintro ⟨front, k, ⟨kx, rest, hx, hrest, rfl⟩, hk, rfl⟩
      exact ⟨kx, rest ++ [k], hx, ⟨rest, k, hrest, hk, rfl⟩, rfl⟩

theorem fields_length_of_recordKeys {s : Schema} {rows : List Csv.Record} {keys : List RowKey}
    (h : recordKeys s rows = .ok keys) : ∀ r ∈ rows, r.fields.length = s.header.length := by
  induction rows generalizing keys with
  | nil => simp
  | cons x rows ih =>
    obtain ⟨k, rest, hk, hrest, rfl⟩ := recordKeys_cons_iff.mp h
    intro r hm
    obtain rfl | hm := List.mem_cons.mp hm
    · exact length_of_recordKey hk
    · exact ih hrest r hm

theorem fields_length_of_keysIn {s : Schema} {content : Bytes} (hne : content ≠ [])
    {keys : List RowKey} (h : keysIn s content = .ok keys) :
    ∀ r ∈ Csv.records content, r.fields.length = s.header.length := by
  obtain ⟨header, rows, hr, ht, hkeys⟩ := (keysIn_eq_ok_iff hne).mp h
  rw [hr]
  intro r hm
  obtain rfl | hm := List.mem_cons.mp hm
  · exact (length_of_texts? ht).symm
  · exact fields_length_of_recordKeys hkeys r hm

theorem recordKey_concat {s : Schema} {line line' : Nat} {fields : List Bytes} {a b : Bytes}
    {k k' : RowKey} (ha : recordKey s ⟨line, fields ++ [a]⟩ = .ok k)
    (hb : recordKey s ⟨line', fields ++ [b]⟩ = .ok k') : k = k' := by
  have key {line : Nat} {a : Bytes} {k : RowKey} (h : recordKey s ⟨line, fields ++ [a]⟩ = .ok k) :
      ∃ texts t, fields.mapM Bytes.text? = some texts ∧ s.parseKey (texts ++ [t]) = .ok k := by
    unfold recordKey Csv.Record.texts? at h
    rw [List.mapM_append] at h
    cases hf : fields.mapM Bytes.text? with
    | none => simp [hf] at h
    | some texts =>
      cases ht : Bytes.text? a with
      | none => simp [hf, ht] at h
      | some t =>
        refine ⟨texts, t, rfl, ?_⟩
        cases hp : s.parseKey (texts ++ [t]) with
        | error e => simp [hf, ht, hp] at h
        | ok k' => simpa [hf, ht, hp] using h
  obtain ⟨texts, t, hf, hp⟩ := key ha
  obtain ⟨texts', t', hf', hp'⟩ := key hb
  obtain rfl : texts = texts' := Option.some.inj (hf.symm.trans hf')
  exact Except.ok.inj ((Schema.parseKey_concat hp t').symm.trans hp')

variable {s : Schema} {content : Bytes} {keys : List RowKey}

theorem records_open (h : ¬Terminated content) :
    Csv.records content = Scan.start.completed (dropMark content) ++
      [(Scan.start.after (dropMark content)).record] := by
  have hproper := Scan.after_proper Scan.start_blank.proper (dropMark content)
  have hmode : (Scan.start.after (dropMark content)).mode ≠ .recordStart := fun hm => h (hproper hm)
  rw [Csv.records, Scan.run_eq, Scan.finish]
  split
  · contradiction
  · rfl

/-- Behind a record that no quotes keep open, a row makes it longer than the header. -/
theorem keysIn_ne_ok_of_glued (hne : content ≠ []) (hk : keysIn s content = .ok keys)
    (ht : ¬Terminated content) (hq : (Scan.start.after (dropMark content)).mode ≠ .quoted) {r : Row}
    (hqueue : r.configuration.queue ≠ "")
    (hplain : (Bytes.ofText r.configuration.queue).any Csv.isSpecial = false)
    (all : List RowKey) : keysIn s (content ++ rowLine s r) ≠ .ok all := by
  intro hall
  obtain ⟨g, fields, hrecord⟩ : ∃ g fields, s.record r = r.configuration.queue :: g :: fields := by
    cases s <;> exact ⟨_, _, rfl⟩
  obtain ⟨hglued, -⟩ := Scan.completed_writeRecord_glued hq hqueue hplain g fields
  have hlast := records_open ht
  have hlonger := records_append (not_isPartialMark_of_keysIn hne hk) (rowLine s r)
  rw [Scan.run_eq, rowLine, hrecord, hglued] at hlonger
  generalize Scan.start.after (dropMark content) = left at hlast hlonger
  have hopen : left.record.fields.length = s.header.length :=
    fields_length_of_keysIn hne hk _ (by simp [hlast])
  have hglue := fields_length_of_keysIn (by simp [hne]) hall
    ⟨left.startLine, left.fields.reverse ++ (left.field.reverse ++
      Bytes.ofText r.configuration.queue) :: (g :: fields).map Bytes.ofText⟩
    (by rw [rowLine, hrecord]; simp [hlonger])
  have hlength := s.record_length r
  have htwo := s.two_le_header_length
  rw [hrecord] at hlength
  simp only [Scan.record, Scan.closeField, List.length_reverse, List.length_cons,
    List.length_append, List.length_map] at hopen hglue hlength
  omega

/-- Behind a record with open quotes, a row without quotes becomes part of its last field. -/
theorem keys_eq_of_quoted (hne : content ≠ []) (hk : keysIn s content = .ok keys)
    (ht : ¬Terminated content) (hq : (Scan.start.after (dropMark content)).mode = .quoted) {r : Row}
    (hplain : (Bytes.ofText r.configuration.queue).any Csv.isSpecial = false) {all : List RowKey}
    (hall : keysIn s (content ++ rowLine s r) = .ok all) : all = keys := by
  obtain ⟨line, hread⟩ := Scan.reads_writeRecord_quoted hq (s.record_plain hplain)
  obtain ⟨header, rows, hr, htexts, hkeys⟩ := (keysIn_eq_ok_iff hne).mp hk
  obtain ⟨header', rows', hr', htexts', hkeys'⟩ := (keysIn_eq_ok_iff (by simp [hne])).mp hall
  rw [records_open ht] at hr
  rw [records_append (not_isPartialMark_of_keysIn hne hk), Scan.run_eq, rowLine, hread.completed,
    hread.after, List.nil_append] at hr'
  generalize Scan.start.completed (dropMark content) = front at hr hr'
  generalize Scan.start.after (dropMark content) = left at hr hr'
  have hopen : left.record = ⟨left.startLine, left.fields.reverse ++ [left.field.reverse]⟩ := by
    simp [Scan.record, Scan.closeField]
  have hext : Scan.finish ⟨.quoted, (Csv.writeRecord (s.record r)).reverse ++ left.field, left.fields,
      line, left.startLine⟩ = [⟨left.startLine, left.fields.reverse ++
        [left.field.reverse ++ Csv.writeRecord (s.record r)]⟩] := by
    simp [Scan.finish, Scan.record, Scan.closeField]
  rw [hopen] at hr
  rw [hext] at hr'
  cases front with
  | nil =>
    -- the open record is the header, whose last name changes
    simp only [List.nil_append, List.cons.injEq] at hr hr'
    obtain ⟨rfl, -⟩ := hr
    obtain ⟨rfl, -⟩ := hr'
    have hsame := (Bytes.eq_map_ofText htexts).trans (Bytes.eq_map_ofText htexts').symm
    simp [Csv.writeRecord] at hsame
  | cons x front =>
    simp only [List.cons_append, List.cons.injEq] at hr hr'
    obtain ⟨-, rfl⟩ := hr
    obtain ⟨-, rfl⟩ := hr'
    obtain ⟨kept, k, hkept, hlast, rfl⟩ := recordKeys_concat_iff.mp hkeys
    obtain ⟨kept', k', hkept', hlast', rfl⟩ := recordKeys_concat_iff.mp hkeys'
    rw [recordKey_concat hlast hlast', Except.ok.inj (hkept.symm.trans hkept')]

theorem exists_lost_row (hk : keysIn s content = .ok keys) (ht : ¬Terminated content) :
    ∃ r : Row, ∀ all, keysIn s (content ++ rowLine s r) = .ok all → s.keyOf r.key ∉ all := by
  have hne : content ≠ [] := fun he => ht (he ▸ terminated_nil)
  obtain ⟨queue, hqueue, hplain, hnew⟩ := exists_new_queue keys
  refine ⟨⟨⟨queue, ⟨1, 1⟩, 1, 1, 0⟩, 0, 0, 1⟩, fun all hall hm => ?_⟩
  by_cases hq : (Scan.start.after (dropMark content)).mode = .quoted
  · rw [keys_eq_of_quoted hne hk ht hq hplain hall] at hm
    exact hnew _ hm (Schema.queue_keyOf s _)
  · exact keysIn_ne_ok_of_glued hne hk ht hq hqueue hplain all hall

def writeRows {σ : Type} (f : SinkFile σ) (s : Schema) : List Row → σ → Except SinkError Unit × σ
  | [], world => (.ok (), world)
  | r :: rows, world =>
    match writeRow f s r world with
    | (.error e, world) => (.error e, world)
    | (.ok (), world) => writeRows f s rows world

variable {path : String} {w : Workspace}

theorem writeRows_holds (h : Holds path content w) (rows : List Row) :
    ∃ t, writeRows (sinkFile path) s rows w = (.ok (), t) ∧
      Holds path (content ++ rows.flatMap (rowLine s)) t := by
  induction rows generalizing content w with
  | nil => exact ⟨w, rfl, by simpa using h⟩
  | cons r rows ih =>
    obtain ⟨u, hu, hh⟩ := writeRow_holds (s := s) h r
    obtain ⟨t, ht, hh⟩ := ih hh
    refine ⟨t, ?_, by simpa using hh⟩
    rw [writeRows, hu]
    exact ht

def reopened (s : Schema) (content : Bytes) : Bytes :=
  if content = [] then headerLine s else content

theorem append_holds (hv : view path w = .ok (.file content)) (hk : keysIn s content = .ok keys) :
    ∃ t, append (sinkFile path) s w = (.ok (), t) ∧ Holds path (reopened s content) t := by
  unfold reopened
  by_cases hne : content = []
  · subst hne
    exact append_vacant (vacant_of_view hv) s
  · rw [if_neg hne]
    exact append_of_keysIn hv hne hk

theorem keysIn_reopened (hk : keysIn s content = .ok keys) (ht : Terminated content)
    (rows : List Row) : keysIn s (reopened s content ++ rows.flatMap (rowLine s)) =
      .ok (keys ++ rows.map fun r => s.keyOf r.key) := by
  unfold reopened
  by_cases hne : content = []
  · subst hne
    cases hk
    exact (keysIn_append_rows (headerLine_ne_nil s) (keysIn_headerLine s)
      (terminated_headerLine s) rows).1
  · rw [if_neg hne]
    exact (keysIn_append_rows hne hk ht rows).1

/--
A result file with readable rows can be reopened, and any rows then go behind what it held. All of
them are read back, with those before, if and only if the content ended between two records.
-/
theorem append_reads_back_iff (hv : view path w = .ok (.file content))
    (hk : completed (sinkFile path) s w = .ok keys) :
    ∃ t, append (sinkFile path) s w = (.ok (), t) ∧
      (∀ rows, ∃ u added, writeRows (sinkFile path) s rows t = (.ok (), u) ∧
        view path u = .ok (.file (content ++ added))) ∧
      ((∀ rows, ∃ all, completed (sinkFile path) s (writeRows (sinkFile path) s rows t).2 = .ok all ∧
        ∀ k, k ∈ all ↔ k ∈ keys ∨ ∃ r ∈ rows, k = s.keyOf r.key) ↔ Terminated content) := by
  have hkeys := keysIn_of_completed hv hk
  obtain ⟨t, ht, hh⟩ := append_holds hv hkeys
  refine ⟨t, ht, fun rows => ?_, fun hread => ?_, fun hend rows => ?_⟩
  · obtain ⟨u, hu, hh⟩ := writeRows_holds (s := s) hh rows
    refine ⟨u, (if content = [] then headerLine s else []) ++ rows.flatMap (rowLine s), hu, ?_⟩
    rw [hh.view, reopened]
    split
    · rename_i he
      rw [he, List.nil_append]
    · rfl
  · refine Classical.byContradiction fun hend => ?_
    have hne : content ≠ [] := fun he => hend (he ▸ terminated_nil)
    obtain ⟨r, hlost⟩ := exists_lost_row hkeys hend
    obtain ⟨all, hall, hmem⟩ := hread [r]
    obtain ⟨u, hu, hh⟩ := writeRows_holds (s := s) hh [r]
    rw [hu] at hall
    have hcontent := keysIn_of_completed hh.view hall
    simp only [reopened, if_neg hne, List.flatMap_singleton] at hcontent
    exact hlost all hcontent ((hmem _).mpr (.inr ⟨r, by simp, rfl⟩))
  · obtain ⟨u, hu, hh⟩ := writeRows_holds (s := s) hh rows
    refine ⟨_, by rw [hu]; exact completed_of_view hh.view (keysIn_reopened hkeys hend rows), ?_⟩
    intro k
    simp [eq_comm]

/-- Carriage returns, and quotes around a name, as an editor may leave them. -/
def edited : Bytes := Bytes.ofText
  ("\"Queue\",Producers,Consumers,Size,Items,Runs,Delay,Score,Score Error\r\n" ++
    "\"say \"\"A\"\",\r\nor B\",1,1,64,1000,3,250,2.5,0.5\r\n\r\nC,2,1,128,1000,3,0,NaN,\r\n")

theorem append_reads_back_edited :
    let keys : List RowKey :=
      [⟨"say \"A\",\r\nor B", 1, 1, 64, 1000, 3, some 250⟩, ⟨"C", 2, 1, 128, 1000, 3, some 0⟩]
    view "out.csv" (oneFile edited) = .ok (.file edited) ∧
      completed (sinkFile "out.csv") .withDelay (oneFile edited) = .ok keys ∧
      ∃ t, append (sinkFile "out.csv") .withDelay (oneFile edited) = (.ok (), t) ∧
        ∀ rows, ∃ all,
          completed (sinkFile "out.csv") .withDelay
              (writeRows (sinkFile "out.csv") .withDelay rows t).2 = .ok all ∧
            ∀ k, k ∈ all ↔ k ∈ keys ∨ ∃ r ∈ rows, k = Schema.withDelay.keyOf r.key := by
  intro keys
  have hkeys : keysIn .withDelay edited = .ok keys := by decide +kernel
  have hmode : (Scan.start.after (dropMark edited)).mode = .recordStart := by decide +kernel
  have hend : Terminated edited := Scan.after_proper Scan.start_blank.proper _ hmode
  have hv := view_oneFile edited
  have hk := completed_of_view hv hkeys
  obtain ⟨t, ht, -, hread⟩ := append_reads_back_iff hv hk
  exact ⟨hv, hk, t, ht, hread.mpr hend⟩

def unterminated : Bytes := headerLine .withoutDelay ++ Bytes.ofText "A,1,1,64,1000,3,2.5,0.5"

theorem unterminated_file_spoiled :
    completed (sinkFile "out.csv") .withoutDelay (oneFile unterminated) =
        .ok [⟨"A", 1, 1, 64, 1000, 3, none⟩] ∧
      ∃ t u, append (sinkFile "out.csv") .withoutDelay (oneFile unterminated) = (.ok (), t) ∧
        writeRow (sinkFile "out.csv") .withoutDelay ⟨⟨"B", ⟨1, 1⟩, 64, 1000, 0⟩, 3, 0, 3⟩ t =
          (.ok (), u) ∧
        ∀ all, completed (sinkFile "out.csv") .withoutDelay u ≠ .ok all := by
  have hv := view_oneFile unterminated
  have hk : keysIn .withoutDelay unterminated = .ok [⟨"A", 1, 1, 64, 1000, 3, none⟩] := rfl
  have hne : unterminated ≠ [] := by simp [unterminated, headerLine_ne_nil]
  have hmode : (Scan.start.after (dropMark unterminated)).mode = .plain := by decide +kernel
  have hopen : ¬Terminated unterminated := by
    intro ht
    rw [ht.mode] at hmode
    cases hmode
  obtain ⟨t, ht, hh⟩ := append_of_keysIn hv hne hk
  obtain ⟨u, hu, hh⟩ := writeRow_holds (s := .withoutDelay) hh
    ⟨⟨"B", ⟨1, 1⟩, 64, 1000, 0⟩, 3, 0, 3⟩
  refine ⟨completed_of_view hv hk, t, u, ht, hu, fun all hall => ?_⟩
  exact keysIn_ne_ok_of_glued hne hk hopen (by simp [hmode]) (by decide) (by decide +kernel) all
    (keysIn_of_completed hh.view hall)

end Sink

end CalibratedSweep
