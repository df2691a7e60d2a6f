import CalibratedSweep.Files.Basic

namespace CalibratedSweep.Files

theorem lookup_putIn (p q : Place) (e : Entry) (entries : List (Place × Entry)) :
    (putIn p e entries).lookup q = if q = p then some e else entries.lookup q := by
  induction entries with
  | nil =>
    by_cases h : q = p
    · simp [putIn, h]
    · simp [putIn, List.lookup_cons, h, beq_eq_false_iff_ne.mpr h]
  | cons entry rest ih =>
    obtain ⟨r, old⟩ := entry
    by_cases hr : r = p
    · subst hr
      by_cases h : q = r
      · simp [putIn, h]
      · simp [putIn, List.lookup_cons, h, beq_eq_false_iff_ne.mpr h]
    · by_cases h : q = r
      · subst h; simp [putIn, hr]
      · simp [putIn, hr, List.lookup_cons, beq_eq_false_iff_ne.mpr h, ih]

theorem get?_nil (f : Files) : f.get? [] = some .directory := rfl

theorem get?_put (f : Files) {p : Place} (hp : p ≠ []) (q : Place) (e : Entry) :
    (f.put p e).get? q = if q = p then some e else f.get? q := by
  unfold get? put
  cases q with
  | nil => simp [Ne.symm hp]
  | cons name q => exact lookup_putIn p (name :: q) e f.entries

theorem ne_nil_of_get? {f : Files} {p : Place} (h : f.get? p ≠ some .directory) : p ≠ [] := by
  rintro rfl
  exact h (get?_nil f)

theorem follow_congr {f g : Files} (h : ∀ p, f.get? p = some .directory → g.get? p = some .directory)
    {names : List String} {place target : Place} (hf : f.follow place names = .ok target) :
    g.follow place names = .ok target := by
  induction names generalizing place with
  | nil => exact hf
  | cons name rest ih =>
    rw [follow] at hf ⊢
    cases hp : f.get? place with
    | none => simp [hp] at hf
    | some e =>
      cases e with
      | file content x => simp [hp] at hf
      | pipe lines => simp [hp] at hf
      | directory =>
        simp only [hp] at hf
        simp only [h place hp]
        split at hf
        · cases hf
        · split at hf
          · exact (if_neg ‹_›).trans ((if_pos ‹_›).trans (ih hf))
          · split at hf
            · exact (if_neg ‹_›).trans ((if_neg ‹_›).trans ((if_pos ‹_›).trans (ih hf)))
            · exact (if_neg ‹_›).trans ((if_neg ‹_›).trans ((if_neg ‹_›).trans (ih hf)))

theorem locate_congr {f g : Files} (h : ∀ p, f.get? p = some .directory → g.get? p = some .directory)
    {base target : Place} {text : String} (hf : f.locate base text = .ok target) :
    g.locate base text = .ok target := by
  unfold locate at hf ⊢
  split at hf
  · cases hf
  · split at hf
    · cases hf
    · exact (if_neg ‹_›).trans ((if_neg ‹_›).trans (follow_congr h hf))

theorem locate_put {f : Files} {p : Place} (h : f.get? p ≠ some .directory) (e : Entry)
    {base target : Place} {text : String} (hf : f.locate base text = .ok target) :
    (f.put p e).locate base text = .ok target := by
  refine locate_congr (fun q hq => ?_) hf
  rw [get?_put f (ne_nil_of_get? h), if_neg]
  · exact hq
  · rintro rfl
    exact h hq

theorem stat_eq_ok_iff {f : Files} {base : Place} {text : String} {e : Entry} :
    f.stat base text = .ok e ↔ ∃ place, f.locate base text = .ok place ∧ f.get? place = some e := by
  unfold stat
  cases f.locate base text with
  | error err => simp
  | ok place => cases h : f.get? place <;> simp [h]

end CalibratedSweep.Files
