import CalibratedSweep.Proofs.Text.Numeral
import CalibratedSweep.Schema

namespace CalibratedSweep.Schema

theorem narrow_toString (column : String) (n : UInt32) : narrow column (toString n) = .ok n := by
  rw [narrow, Numeral.uint32?_trim_toString]

theorem wide_toString (column : String) (n : UInt64) : wide column (toString n) = .ok n := by
  rw [wide, Numeral.uint64?_trim_toString]

theorem readKey_toString (delay : Option UInt64) (queue : String) (producers consumers runs : UInt32)
    (size items : UInt64) :
    readKey delay queue (toString producers) (toString consumers) (toString size) (toString items)
      (toString runs) = .ok ⟨queue, producers, consumers, size, items, runs, delay⟩ := by
  simp only [readKey, narrow_toString, wide_toString]
  rfl

theorem record_length (s : Schema) (r : Row) : (s.record r).length = s.header.length := by
  cases s <;> rfl

theorem two_le_header_length (s : Schema) : 2 ≤ s.header.length := by cases s <;> decide

def leading (s : Schema) (r : Row) : List String := (s.record r).dropLast

theorem record_eq_concat (s : Schema) (r : Row) :
    s.record r = s.leading r ++ [Decimal.scoreText r.scoreError] := by cases s <;> rfl

theorem leading_ne_nil (s : Schema) (r : Row) : s.leading r ≠ [] := by
  cases s <;> exact List.cons_ne_nil _ _

theorem parseKey_record (s : Schema) (r : Row) : s.parseKey (s.record r) = .ok (s.keyOf r.key) := by
  cases s with
  | withDelay =>
    simp only [parseKey, record, hasDelay, ite_true, List.cons_append, List.nil_append,
      readKey_toString, wide_toString]
    rfl
  | withoutDelay =>
    simp only [parseKey, record, hasDelay, Bool.false_eq_true, ite_false, List.cons_append,
      List.nil_append, readKey_toString]
    rfl

theorem length_of_parseKey {s : Schema} {fields : List String} {k : RowKey}
    (h : s.parseKey fields = .ok k) : fields.length = s.header.length := by
  unfold parseKey at h
  split at h
  · rfl
  · rfl
  · cases h

theorem parseKey_concat {s : Schema} {fields : List String} {a : String} {k : RowKey}
    (h : s.parseKey (fields ++ [a]) = .ok k) (b : String) : s.parseKey (fields ++ [b]) = .ok k := by
  have hl := length_of_parseKey h
  rw [List.length_append] at hl
  cases s with
  | withDelay =>
    have hl : fields.length = 8 := by simpa [header, keyHeader] using hl
    match fields, hl with
    | [_, _, _, _, _, _, _, _], _ => exact h
  | withoutDelay =>
    have hl : fields.length = 7 := by simpa [header, keyHeader] using hl
    match fields, hl with
    | [_, _, _, _, _, _, _], _ => exact h

theorem queue_keyOf (s : Schema) (k : RowKey) : (s.keyOf k).queue = k.queue := by
  unfold keyOf
  split <;> rfl

end CalibratedSweep.Schema
