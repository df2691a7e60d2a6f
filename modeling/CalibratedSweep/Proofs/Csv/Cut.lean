import CalibratedSweep.Proofs.Csv.RoundTrip
/-!
Records that are cut short. Within one record a scan only ever closes more fields, so the beginning
of a written record is read as one record, with as many fields as were begun in it.
-/

namespace CalibratedSweep.Csv

theorem prefix_append_cases {α : Type} {q x y : List α} (h : q <+: x ++ y) :
    q <+: x ∨ ∃ a, q = x ++ a ∧ a <+: y := by
  obtain hq | ⟨a, rfl⟩ := List.prefix_or_prefix_of_prefix h (List.prefix_append x y)
  · exact .inl hq
  · exact .inr ⟨a, rfl, (List.prefix_append_right_inj x).mp h⟩

theorem writeFields_concat {front : List Bytes} (h : front ≠ []) (last : Bytes) :
    writeFields (front ++ [last]) = writeFields front ++ comma :: writeField last := by
  induction front with
  | nil => exact absurd rfl h
  | cons f front ih =>
    cases front with
    | nil => rfl
    | cons g front =>
      have hrest := ih (by simp)
      rw [List.cons_append, writeFields, writeFields, hrest, List.append_assoc, List.cons_append]
      · simp
      · simp

namespace Scan

theorem not_isLineEnd_of_not_isSpecial {b : UInt8} (h : isSpecial b = false) :
    isLineEnd b = false := by
  simp only [isSpecial, Bool.or_eq_false_iff] at h
  rw [isLineEnd, h.1.2, h.2, Bool.or_false]

theorem not_isLineEnd_head {f : Bytes} {fields : List Bytes} {b : UInt8} {rest : Bytes}
    (h : writeFields (f :: fields) = b :: rest) : isLineEnd b = false := by
  have hfield {tail : Bytes} (htail : writeField f ++ tail = b :: rest)
      (hb : ∀ c, tail.head? = some c → isLineEnd c = false) : isLineEnd b = false := by
    by_cases hs : f.any isSpecial
    · rw [writeField, if_pos hs, List.cons_append, List.cons_append, List.cons.injEq] at htail
      exact htail.1 ▸ rfl
    · rw [writeField, if_neg hs] at htail
      cases f with
      | nil => exact hb b (by rw [List.nil_append] at htail; rw [htail, List.head?_cons])
      | cons c f =>
        rw [List.any_cons, Bool.or_eq_true, not_or, Bool.not_eq_true] at hs
        rw [List.cons_append, List.cons.injEq] at htail
        exact htail.1 ▸ not_isLineEnd_of_not_isSpecial hs.1
  cases fields with
  | nil =>
    rw [writeFields] at h
    exact hfield ((List.append_nil _).trans h) (by simp)
  | cons g fields =>
    rw [writeFields] at h
    · refine hfield h fun c hc => ?_
      rw [List.head?_cons, Option.some.injEq] at hc
      exact hc ▸ rfl
    · simp

theorem unquoted_begun {s : Scan} {b : UInt8} (h : (s.unquoted b).2 = none) :
    s.fields <:+ (s.unquoted b).1.fields ∧ (s.unquoted b).1.mode ≠ .recordStart := by
  unfold unquoted at h ⊢
  by_cases hc : b = comma
  · rw [if_pos hc]
    exact ⟨List.suffix_cons _ _, by simp [nextField]⟩
  · rw [if_neg hc] at h ⊢
    by_cases hl : isLineEnd b
    · rw [if_pos hl] at h
      cases h
    · rw [if_neg hl]
      exact ⟨List.suffix_rfl, by simp [add]⟩

theorem fieldStart_begun {s : Scan} {b : UInt8} (h : (s.fieldStart b).2 = none) :
    s.fields <:+ (s.fieldStart b).1.fields ∧ (s.fieldStart b).1.mode ≠ .recordStart := by
  unfold Scan.fieldStart at h ⊢
  by_cases hq : b = quote
  · rw [if_pos hq]
    exact ⟨List.suffix_rfl, by simp⟩
  · rw [if_neg hq] at h ⊢
    exact unquoted_begun h

/-- A byte that ends no record keeps the fields closed so far, and begins one unless it is skipped. -/
theorem step_begun {s : Scan} {b : UInt8} (h : (s.step b).2 = none) :
    s.fields <:+ (s.step b).1.fields ∧
      (s.mode ≠ .recordStart ∨ isLineEnd b = false → (s.step b).1.mode ≠ .recordStart) := by
  unfold step at h ⊢
  have hline : (if b = lineFeed then { s with line := s.line + 1 } else s).fields = s.fields ∧
      (if b = lineFeed then { s with line := s.line + 1 } else s).mode = s.mode := by
    split <;> exact ⟨rfl, rfl⟩
  -- The line count plays no part in what follows.
  generalize (if b = lineFeed then { s with line := s.line + 1 } else s) = t at h hline ⊢
  rw [← hline.1, ← hline.2]
  dsimp only at h ⊢
  cases hm : t.mode with
  | recordStart =>
    rw [hm] at h
    by_cases hb : isLineEnd b
    · dsimp only
      rw [if_pos hb]
      exact ⟨List.suffix_rfl, by simp [hb]⟩
    · dsimp only at h ⊢
      rw [if_neg hb] at h ⊢
      exact (fieldStart_begun h).imp_right fun hbegun _ => hbegun
  | fieldStart =>
    rw [hm] at h
    exact (fieldStart_begun h).imp_right fun hbegun _ => hbegun
  | plain =>
    rw [hm] at h
    exact (unquoted_begun h).imp_right fun hbegun _ => hbegun
  | quoted =>
    dsimp only
    split
    · exact ⟨List.suffix_rfl, fun _ => by simp⟩
    · exact ⟨List.suffix_rfl, fun _ => by simp [add]⟩
  | quoteSeen =>
    rw [hm] at h
    by_cases hb : b = quote
    · dsimp only
      rw [if_pos hb]
      exact ⟨List.suffix_rfl, fun _ => by simp [add]⟩
    · dsimp only at h ⊢
      rw [if_neg hb] at h ⊢
      exact (unquoted_begun h).imp_right fun hbegun _ => hbegun

theorem Reads.split {s t : Scan} {a b : Bytes} (h : s.Reads (a ++ b) t) :
    s.Reads a (s.after a) ∧ (s.after a).Reads b t := by
  obtain ⟨hafter, hcompleted⟩ := h
  rw [Scan.after_append] at hafter
  rw [Scan.completed_append, List.append_eq_nil_iff] at hcompleted
  exact ⟨⟨rfl, hcompleted.1⟩, hafter, hcompleted.2⟩

theorem Reads.head {s t : Scan} {b : UInt8} {a : Bytes} (h : s.Reads (b :: a) t) :
    (s.step b).2 = none ∧ (s.step b).1.Reads a t := by
  obtain ⟨hafter, hcompleted⟩ := h
  rw [Scan.completed, List.append_eq_nil_iff] at hcompleted
  exact ⟨Option.toList_eq_nil_iff.mp hcompleted.1, hafter, hcompleted.2⟩

theorem Reads.begun {s t : Scan} {a : Bytes} (h : s.Reads a t) :
    s.fields <:+ t.fields ∧ (s.mode ≠ .recordStart → t.mode ≠ .recordStart) := by
  induction a generalizing s with
  | nil =>
    obtain rfl : s = t := h.after
    exact ⟨List.suffix_rfl, id⟩
  | cons b a ih =>
    obtain ⟨hb, hrest⟩ := h.head
    obtain ⟨hfields, hmode⟩ := step_begun hb
    obtain ⟨hfields', hmode'⟩ := ih hrest
    exact ⟨hfields.trans hfields', fun hm => hmode' (hmode (.inl hm))⟩

theorem Reads.run {s t : Scan} {a : Bytes} (h : s.Reads a t) (hm : t.mode ≠ .recordStart) :
    s.run a = [t.record] := by
  rw [run_eq, h.completed, h.after, List.nil_append, finish]
  split
  · contradiction
  · rfl

theorem reads_cut {s : Scan} (h : s.Blank) {f : Bytes} {fields : List Bytes} {q : Bytes}
    (hne : q ≠ []) (hq : q <+: writeFields (f :: fields)) :
    s.Reads q (s.after q) ∧ (s.after q).mode ≠ .recordStart ∧
      (s.after q).fields.length ≤ fields.length := by
  obtain ⟨u, hread, -, -, hrec⟩ := reads_writeFields (.inl h.mode) h.field f fields
  have hlength := congrArg (List.length ∘ Record.fields) hrec
  simp only [Function.comp, record, closeField, h.fields, List.length_reverse, List.length_cons,
    List.length_append, List.length_nil, Nat.zero_add, Nat.add_right_cancel_iff] at hlength
  obtain ⟨rest, hrest⟩ := hq
  rw [← hrest] at hread
  obtain ⟨hcut, hmore⟩ := hread.split
  refine ⟨hcut, ?_, hlength ▸ hmore.begun.1.length_le⟩
  cases q with
  | nil => exact absurd rfl hne
  | cons b q =>
    obtain ⟨hb, htail⟩ := hcut.head
    exact htail.begun.2 ((step_begun hb).2 (.inr (not_isLineEnd_head hrest.symm)))

/--
A written record that is cut has too few fields, unless all are begun; then only the last is cut.
-/
theorem run_cut {s : Scan} (h : s.Blank) {front : List Bytes} (hf : front ≠ []) {last : Bytes}
    (hl : last.any isSpecial = false) {q : Bytes} (hne : q ≠ [])
    (hq : q <+: writeFields (front ++ [last])) :
    ∃ r, s.run q = [r] ∧
      (q <+: writeFields front ∧ r.fields.length ≤ front.length ∨
        ∃ a, a <+: last ∧ q = writeFields front ++ comma :: a ∧ r.fields = front ++ [a]) := by
  obtain ⟨f, fields, rfl⟩ := List.exists_cons_of_ne_nil hf
  have hcut := reads_cut h hne hq
  refine ⟨(s.after q).record, hcut.1.run hcut.2.1, ?_⟩
  rw [writeFields_concat hf] at hq
  have hwhole {q : Bytes} (hne : q ≠ []) (hq : q <+: writeFields (f :: fields)) :
      (s.after q).record.fields.length ≤ (f :: fields).length := by
    have hlength := (reads_cut h hne hq).2.2
    simpa [record, closeField] using hlength
  obtain hq | ⟨rest, rfl, hrest⟩ := prefix_append_cases hq
  · exact .inl ⟨hq, hwhole hne hq⟩
  cases rest with
  | nil =>
    rw [List.append_nil] at hne ⊢
    exact .inl ⟨List.prefix_rfl, hwhole hne List.prefix_rfl⟩
  | cons b a =>
    obtain ⟨rfl, ha⟩ := List.cons_prefix_cons.mp hrest
    rw [writeField, hl, if_neg Bool.false_ne_true] at ha
    obtain ⟨u, hread, hqu, -, hrec⟩ := reads_writeFields (.inl h.mode) h.field f fields
    have hfields : u.closeField.reverse = f :: fields := by
      have hrecord := congrArg Record.fields hrec
      rwa [h.fields] at hrecord
    refine .inr ⟨a, ha, rfl, ?_⟩
    rw [hread.after_append, after_comma hqu]
    have hplain : a.any isSpecial = false := by
      obtain ⟨more, rfl⟩ := ha
      rw [List.any_append, Bool.or_eq_false_iff] at hl
      exact hl.1
    have hend : (u.nextField.after a).record.fields = u.closeField.reverse ++ [a] := by
      by_cases hnil : a = []
      · subst hnil
        simp [after, record, closeField, nextField]
      · rw [(reads_unquoted (s := u.nextField) (by simp [nextField]) hnil hplain).after]
        simp [record, closeField, nextField]
    rw [hend, hfields]

end Scan

end CalibratedSweep.Csv
