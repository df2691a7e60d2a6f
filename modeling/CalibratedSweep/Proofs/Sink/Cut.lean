import CalibratedSweep.Proofs.Csv.Cut
import CalibratedSweep.Proofs.Sink.Append
/-!
A result file whose end was lost. Wherever it is cut, only rows are counted that are there up to
their last column; but a row counts as soon as that column has begun, so a cut within the last
column is taken for a whole row.
-/

namespace CalibratedSweep.Sink

open Workspace (Holds Vacant blank oneFile sinkFile vacant_blank view view_oneFile)

variable {s : Schema} {r : Row} {rows : List Row} {cut : Bytes} {keys : List RowKey}

def rowText (s : Schema) (r : Row) : Bytes := Csv.writeFields ((s.record r).map Bytes.ofText)

def rowFront (s : Schema) (r : Row) : Bytes :=
  Csv.writeFields ((s.leading r).map Bytes.ofText) ++ [Csv.comma]

def errorText (r : Row) : Bytes := Bytes.ofText (Decimal.scoreText r.scoreError)

theorem rowText_eq_concat (s : Schema) (r : Row) : rowText s r = rowFront s r ++ errorText r := by
  have hne : (s.leading r).map Bytes.ofText ≠ [] := by simp [s.leading_ne_nil r]
  rw [rowText, s.record_eq_concat r, List.map_append, List.map_singleton,
    Csv.writeFields_concat hne, Csv.writeField, Schema.scoreText_plain, if_neg Bool.false_ne_true,
    rowFront, List.append_assoc]
  rfl

theorem rowLine_eq_concat (s : Schema) (r : Row) :
    rowLine s r = rowFront s r ++ errorText r ++ [Csv.lineFeed] := by
  rw [← rowText_eq_concat]
  rfl

theorem recordKey_cut {line : Nat} {a : Bytes} (ha : a <+: errorText r) :
    recordKey s ⟨line, (s.leading r).map Bytes.ofText ++ [a]⟩ = .ok (s.keyOf r.key) := by
  obtain ⟨t, rfl⟩ := Bytes.exists_ofText_of_prefix
    (fun c hc => Decimal.toNat_lt_of_isScoreChar (Decimal.isScoreChar_of_mem_scoreText hc)) ha
  have hkey := s.parseKey_record r
  rw [s.record_eq_concat r] at hkey
  have hfields : (s.leading r).map Bytes.ofText ++ [Bytes.ofText t] =
      (s.leading r ++ [t]).map Bytes.ofText := by simp
  simp only [recordKey, hfields, texts?_written, Schema.parseKey_concat hkey t]

theorem keysIn_sheet_cut_iff (hne : cut ≠ []) (hcut : cut <+: rowText s r) :
    keysIn s (sheet s rows ++ cut) = .ok keys ↔
      (∃ a, a <+: errorText r ∧ cut = rowFront s r ++ a) ∧
        keys = (rows.map fun r => s.keyOf r.key) ++ [s.keyOf r.key] := by
  have hfront : (s.leading r).map Bytes.ofText ≠ [] := by simp [s.leading_ne_nil r]
  rw [rowText, s.record_eq_concat r, List.map_append, List.map_singleton] at hcut
  obtain ⟨x, hrun, hx⟩ := Csv.Scan.run_cut (completed_sheet s rows).2 hfront
    (Schema.scoreText_plain r.scoreError) hne hcut
  rw [keysIn_sheet_append_iff, hrun]
  obtain ⟨hshort, hlength⟩ | ⟨a, ha, rfl, hfields⟩ := hx
  · -- Fewer fields than the header has are no key, so nothing can be read here.
    constructor
    · rintro ⟨last, hlast, -⟩
      obtain ⟨k, -, hk, -, -⟩ := recordKeys_cons_iff.mp hlast
      have hcount := length_of_recordKey hk
      have hrecord := s.record_length r
      rw [s.record_eq_concat r, List.length_append, List.length_singleton] at hrecord
      rw [List.length_map] at hlength
      omega
    · rintro ⟨⟨a, -, rfl⟩, -⟩
      have hle := hshort.length_le
      rw [rowFront, List.length_append, List.length_append, List.length_singleton] at hle
      omega
  · have hkey : recordKeys s [x] = .ok [s.keyOf r.key] := by
      obtain ⟨line, fields⟩ := x
      dsimp only at hfields
      rw [recordKeys, hfields, recordKey_cut ha]
      rfl
    rw [hkey]
    constructor
    · rintro ⟨last, hlast, rfl⟩
      exact ⟨⟨a, ha, by rw [rowFront, List.append_assoc]; rfl⟩, by rw [Except.ok.inj hlast]⟩
    · rintro ⟨-, rfl⟩
      exact ⟨_, rfl, rfl⟩

/-- A file that ends within its header has no rows, whatever the header says. -/
theorem keysIn_cut_header (hcut : cut <+: headerLine s) (hk : keysIn s cut = .ok keys) :
    keys = [] := by
  by_cases hne : cut = []
  · subst hne
    exact (Except.ok.inj hk).symm
  obtain ⟨header, records, hr, -, hkeys⟩ := (keysIn_eq_ok_iff hne).mp hk
  have hmark : Csv.dropMark cut = cut := by
    obtain ⟨rest, h⟩ := headerLine_eq_cons s
    rw [h] at hcut
    obtain ⟨more, rfl, -⟩ := (List.prefix_cons_iff.mp hcut).resolve_left hne
    rfl
  obtain hwhole | hcut := List.prefix_concat_iff.mp hcut
  · have hheader : cut = headerLine s := hwhole
    rw [hheader, keysIn_headerLine] at hk
    exact (Except.ok.inj hk).symm
  · obtain ⟨f, fields, hfields⟩ : ∃ f fields, s.header.map Bytes.ofText = f :: fields := by
      cases s <;> exact ⟨_, _, rfl⟩
    rw [hfields] at hcut
    obtain ⟨hread, hm, -⟩ := Csv.Scan.reads_cut Csv.Scan.start_blank hne hcut
    rw [Csv.records, hmark, hread.run hm] at hr
    obtain ⟨-, rfl⟩ := List.cons.inj hr
    exact (Except.ok.inj hkeys).symm

theorem prefix_rowLines (h : cut <+: rows.flatMap (rowLine s)) :
    ∃ before after more, rows = before ++ after ∧ cut = before.flatMap (rowLine s) ++ more ∧
      (more = [] ∨ ∃ r rest, after = r :: rest ∧ more ≠ [] ∧ more <+: rowText s r) := by
  induction rows generalizing cut with
  | nil => exact ⟨[], [], [], rfl, List.prefix_nil.mp h, .inl rfl⟩
  | cons r rows ih =>
    rw [List.flatMap_cons] at h
    obtain h | ⟨rest, rfl, hrest⟩ := Csv.prefix_append_cases h
    · obtain hline | h := List.prefix_concat_iff.mp h
      · refine ⟨[r], rows, [], rfl, ?_, .inl rfl⟩
        rw [List.append_nil, List.flatMap_singleton]
        exact hline
      · by_cases hne : cut = []
        · exact ⟨[], r :: rows, [], rfl, hne, .inl rfl⟩
        · exact ⟨[], r :: rows, cut, rfl, rfl, .inr ⟨r, rows, rfl, hne, h⟩⟩
    · obtain ⟨before, after, more, rfl, rfl, hmore⟩ := ih hrest
      exact ⟨r :: before, after, more, rfl, by rw [List.flatMap_cons, List.append_assoc], hmore⟩

theorem cut_cases (h : cut <+: sheet s rows) :
    cut <+: headerLine s ∨ ∃ before after, rows = before ++ after ∧ (cut = sheet s before ∨
      ∃ r rest more, after = r :: rest ∧ more ≠ [] ∧ more <+: rowText s r ∧
        cut = sheet s before ++ more) := by
  obtain h | ⟨rest, rfl, hrest⟩ := Csv.prefix_append_cases h
  · exact .inl h
  · obtain ⟨before, after, more, hrows, rfl, rfl | ⟨r, tail, htail, hne, hmore⟩⟩ :=
      prefix_rowLines hrest
    · exact .inr ⟨before, after, hrows, .inl (by rw [List.append_nil]; rfl)⟩
    · exact .inr ⟨before, after, hrows, .inr ⟨r, tail, more, htail, hne, hmore,
        (List.append_assoc _ _ _).symm⟩⟩

/-- A row with this key is in the cut, up to `upTo` of it. -/
def Shows (s : Schema) (rows : List Row) (cut : Bytes) (upTo : Row → Bytes) (k : RowKey) : Prop :=
  ∃ before r after, rows = before ++ r :: after ∧ k = s.keyOf r.key ∧ sheet s before ++ upTo r <+: cut

/-- The cut is within the last column of a row, and no row before that one has its key. -/
def EndsInError (s : Schema) (rows : List Row) (cut : Bytes) : Prop :=
  ∃ before r after shown, rows = before ++ r :: after ∧
    s.keyOf r.key ∉ before.map (fun r => s.keyOf r.key) ∧
    shown <+: errorText r ∧ shown ≠ errorText r ∧ cut = sheet s before ++ (rowFront s r ++ shown)

theorem rowText_within_sheet (s : Schema) (before : List Row) (r : Row) (after : List Row) :
    sheet s before ++ rowText s r <+: sheet s (before ++ r :: after) := by
  rw [← sheet_append, List.flatMap_cons, rowLine_eq_concat, ← rowText_eq_concat]
  exact ⟨Csv.lineFeed :: after.flatMap (rowLine s), by simp⟩

theorem shows_of_mem {before after : List Row} {k : RowKey} {more : Bytes}
    (hk : k ∈ before.map fun r => s.keyOf r.key) :
    Shows s (before ++ after) (sheet s before ++ more) (rowText s) k := by
  obtain ⟨r, hr, rfl⟩ := List.mem_map.mp hk
  obtain ⟨front, back, rfl⟩ := List.append_of_mem hr
  refine ⟨front, r, back ++ after, by simp, rfl, ?_⟩
  exact (rowText_within_sheet s front r back).trans (List.prefix_append _ _)

theorem Shows.mono {k : RowKey} (h : Shows s rows cut (rowText s) k) :
    Shows s rows cut (rowFront s) k := by
  obtain ⟨before, r, after, hrows, hk, hcut⟩ := h
  refine ⟨before, r, after, hrows, hk, List.IsPrefix.trans ?_ hcut⟩
  rw [rowText_eq_concat, ← List.append_assoc]
  exact List.prefix_append _ _

theorem shows_of_keysIn (hcut : cut <+: sheet s rows) (hk : keysIn s cut = .ok keys) {k : RowKey}
    (hm : k ∈ keys) : Shows s rows cut (rowFront s) k ∧
      (Shows s rows cut (rowText s) k ∨ EndsInError s rows cut) := by
  obtain hcut | ⟨before, after, rfl, rfl | ⟨r, rest, more, rfl, hne, hmore, rfl⟩⟩ := cut_cases hcut
  · rw [keysIn_cut_header hcut hk] at hm
    cases hm
  · rw [keysIn_sheet] at hk
    rw [← Except.ok.inj hk] at hm
    have hshown : Shows s (before ++ after) (sheet s before ++ []) (rowText s) k := shows_of_mem hm
    rw [List.append_nil] at hshown
    exact ⟨hshown.mono, .inl hshown⟩
  · obtain ⟨⟨a, ha, rfl⟩, rfl⟩ := (keysIn_sheet_cut_iff hne hmore).mp hk
    -- Only a key that no whole row has can come from the row that is cut.
    by_cases hold : k ∈ before.map fun r => s.keyOf r.key
    · have hshown : Shows s (before ++ r :: rest) (sheet s before ++ (rowFront s r ++ a))
          (rowText s) k := shows_of_mem hold
      exact ⟨hshown.mono, .inl hshown⟩
    · obtain rfl : k = s.keyOf r.key :=
        List.mem_singleton.mp ((List.mem_append.mp hm).resolve_left hold)
      refine ⟨⟨before, r, rest, rfl, rfl, ?_⟩, ?_⟩
      · rw [← List.append_assoc]
        exact List.prefix_append _ _
      · by_cases hwhole : a = errorText r
        · have htext : rowText s r = rowFront s r ++ a := by rw [hwhole, rowText_eq_concat]
          exact .inl ⟨before, r, rest, rfl, rfl, htext ▸ List.prefix_rfl⟩
        · exact .inr ⟨before, r, rest, a, rfl, hold, ha, hwhole, rfl⟩

theorem not_shows_cut {before after : List Row} {shown : Bytes}
    (hnew : s.keyOf r.key ∉ before.map fun r => s.keyOf r.key) (hshown : shown <+: errorText r)
    (hcut : shown ≠ errorText r) :
    ¬Shows s (before ++ r :: after) (sheet s before ++ (rowFront s r ++ shown)) (rowText s)
      (s.keyOf r.key) := by
  rintro ⟨before', r', after', hrows, hkey, hprefix⟩
  have hshort : shown.length < (errorText r).length :=
    Nat.lt_of_le_of_ne hshown.length_le fun hl => hcut (hshown.eq_of_length hl)
  have hself : ¬sheet s before ++ rowText s r <+: sheet s before ++ (rowFront s r ++ shown) := by
    intro h
    have hle := h.length_le
    simp only [rowText_eq_concat, List.length_append] at hle
    omega
  obtain ⟨mid, rfl, hmid⟩ | ⟨mid, rfl, hmid⟩ := List.append_eq_append_iff.mp hrows
  · -- the row with this key would not come before the one that is cut
    cases mid with
    | nil =>
      obtain ⟨rfl, -⟩ := List.cons.inj hmid
      exact hself (by rwa [List.append_nil] at hprefix)
    | cons x mid =>
      obtain ⟨rfl, -⟩ := List.cons.inj hmid
      exact hself (((rowText_within_sheet s before r mid).trans (List.prefix_append _ _)).trans hprefix)
  · cases mid with
    | nil =>
      obtain ⟨rfl, -⟩ := List.cons.inj hmid
      rw [List.append_nil] at hself hprefix
      exact hself hprefix
    | cons x mid =>
      obtain ⟨rfl, -⟩ := List.cons.inj hmid
      exact hnew (by simp [hkey])

theorem keysIn_of_cut_in_error {before : List Row} {shown : Bytes} (hshown : shown <+: errorText r) :
    keysIn s (sheet s before ++ (rowFront s r ++ shown)) =
      .ok ((before.map fun r => s.keyOf r.key) ++ [s.keyOf r.key]) := by
  have hne : rowFront s r ++ shown ≠ [] := by simp [rowFront]
  have htext : rowFront s r ++ shown <+: rowText s r := by
    rw [rowText_eq_concat]
    exact (List.prefix_append_right_inj _).mpr hshown
  exact (keysIn_sheet_cut_iff hne htext).mpr ⟨⟨shown, hshown, rfl⟩, rfl⟩

variable {path : String} {w t : Workspace}

/--
However a result file is cut, the keys that are read are those of rows that are there up to their
last column. They are all of whole rows if and only if the cut is not within the last column of a
row that is the first one with its key.
-/
theorem cut_file_shows_rows_iff (hc : create (sinkFile path) s w = (.ok (), t)) (rows : List Row) :
    ∃ u file, writeRows (sinkFile path) s rows t = (.ok (), u) ∧ view path u = .ok (.file file) ∧
      ∀ cut v, cut <+: file → view path v = .ok (.file cut) →
        (∀ keys, completed (sinkFile path) s v = .ok keys →
          ∀ k ∈ keys, Shows s rows cut (rowFront s) k) ∧
        ((∀ keys, completed (sinkFile path) s v = .ok keys →
          ∀ k ∈ keys, Shows s rows cut (rowText s) k) ↔ ¬EndsInError s rows cut) := by
  obtain ⟨u, hu, hh⟩ := writeRows_holds (s := s) (holds_of_create hc) rows
  refine ⟨u, sheet s rows, hu, hh.view, fun cut v hcut hv => ⟨fun keys hk k hm => ?_, ?_⟩⟩
  · exact (shows_of_keysIn hcut (keysIn_of_completed hv hk) hm).1
  constructor
  · rintro hall ⟨before, r, after, shown, rfl, hnew, hshown, hpart, rfl⟩
    have hk := completed_of_view hv (keysIn_of_cut_in_error hshown)
    exact not_shows_cut hnew hshown hpart (hall _ hk _ (by simp))
  · intro hend keys hk k hm
    exact (shows_of_keysIn hcut (keysIn_of_completed hv hk) hm).2.resolve_right hend

theorem cut_file_shows_rows_quoted :
    let r : Row := ⟨⟨"say \"A\",\r\nor ", ⟨1, 1⟩, 64, 1000, 250⟩, 3, 0, 3⟩
    ∃ t, create (sinkFile "out.csv") .withDelay blank = (.ok (), t) ∧
      ∃ u file, writeRows (sinkFile "out.csv") .withDelay [r] t = (.ok (), u) ∧
        view "out.csv" u = .ok (.file file) ∧
        ∀ cut, cut <+: file → ∀ keys,
          completed (sinkFile "out.csv") .withDelay (oneFile cut) = .ok keys →
          ∀ k ∈ keys, Shows .withDelay [r] cut (rowFront .withDelay) k := by
  intro r
  obtain ⟨t, ht, -⟩ := create_vacant vacant_blank .withDelay
  obtain ⟨u, file, hu, hv, hcut⟩ := cut_file_shows_rows_iff ht [r]
  exact ⟨t, ht, u, file, hu, hv, fun cut h => (hcut cut (oneFile cut) h (view_oneFile cut)).1⟩

def quarter : Row := ⟨⟨"A", ⟨1, 1⟩, 64, 1000, 0⟩, 2.5, 0.25, 3⟩

def cutQuarter : Bytes := headerLine .withoutDelay ++ Bytes.ofText "A,1,1,64,1000,3,2.5,0."

theorem cut_row_counted :
    (∃ t u file, create (sinkFile "out.csv") .withoutDelay blank = (.ok (), t) ∧
      writeRows (sinkFile "out.csv") .withoutDelay [quarter] t = (.ok (), u) ∧
      view "out.csv" u = .ok (.file file) ∧ cutQuarter <+: file) ∧
    completed (sinkFile "out.csv") .withoutDelay (oneFile cutQuarter) =
      .ok [⟨"A", 1, 1, 64, 1000, 3, none⟩] ∧
    ¬Shows .withoutDelay [quarter] cutQuarter (rowText .withoutDelay)
      ⟨"A", 1, 1, 64, 1000, 3, none⟩ := by
  have hcut : cutQuarter =
      sheet .withoutDelay [] ++ (rowFront .withoutDelay quarter ++ Bytes.ofText "0.") := by
    decide +kernel
  have hshown : Bytes.ofText "0." <+: errorText quarter := ⟨Bytes.ofText "25", by decide +kernel⟩
  have hpart : Bytes.ofText "0." ≠ errorText quarter := by decide +kernel
  refine ⟨?_, ?_, ?_⟩
  · obtain ⟨t, ht, hh⟩ := create_vacant vacant_blank .withoutDelay
    obtain ⟨u, hu, hh⟩ := writeRows_holds (s := .withoutDelay) hh [quarter]
    refine ⟨t, u, _, ht, hu, hh.view, ?_⟩
    rw [hcut]
    have hwhole := rowText_within_sheet .withoutDelay [] quarter []
    refine List.IsPrefix.trans ?_ hwhole
    rw [rowText_eq_concat]
    exact (List.prefix_append_right_inj _).mpr ((List.prefix_append_right_inj _).mpr hshown)
  · rw [hcut]
    exact completed_of_view (view_oneFile _) (keysIn_of_cut_in_error hshown)
  · rw [hcut]
    have hnew : Schema.withoutDelay.keyOf quarter.key ∉
        ([] : List Row).map fun r => Schema.withoutDelay.keyOf r.key := by simp
    exact not_shows_cut hnew hshown hpart

end CalibratedSweep.Sink
