import CalibratedSweep.Proofs.Text.Numeral
import Mathlib.Data.List.Basic

namespace CalibratedSweep.Text

def number? (s : List Char) : Option (Nat × List Char) :=
  (Numeral.value? (s.takeWhile Char.isDigit)).map fun n => (n, s.dropWhile Char.isDigit)

/-- The numbers in front of the labels, if the text consists of nothing else. -/
def fields? : List String → List Char → Option (List Nat)
  | [], s => if s.isEmpty then some [] else none
  | label :: labels, s =>
    (number? s).bind fun first =>
      (label.toList.isPrefixOf? first.2).bind fun rest => (fields? labels rest).map (first.1 :: ·)

structure Field where
  digits : List Char
  value : Nat
  label : String
  isDigit : ∀ c ∈ digits, c.isDigit = true
  value_eq : Numeral.value? digits = some value

namespace Field

def ofNat (n : Nat) (label : String) : Field where
  digits := Numeral.digits n
  value := n
  label := label
  isDigit := fun _ => Numeral.isDigit_of_mem_digits
  value_eq := Numeral.value?_digits n

def padded (width n : Nat) (label : String) : Field where
  digits := Numeral.padded width n
  value := n
  label := label
  isDigit := fun _ => Numeral.isDigit_of_mem_padded
  value_eq := Numeral.value?_padded width n

def text (f : Field) : List Char := f.digits ++ f.label.toList

end Field

theorem number?_append {ds : List Char} {n : Nat} (hd : ∀ c ∈ ds, c.isDigit = true)
    (hn : Numeral.value? ds = some n) {c : Char} (hc : c.isDigit = false) (rest : List Char) :
    number? (ds ++ c :: rest) = some (n, c :: rest) := by
  rw [number?, List.takeWhile_append_of_pos hd, List.dropWhile_append_of_pos hd]
  simp [hc, hn]

theorem number?_eq_none {c : Char} (hc : c.isDigit = false) (rest : List Char) :
    number? (c :: rest) = none := by
  rw [number?, List.takeWhile_cons, hc]
  rfl

def separates (label : String) : Bool := label.toList.head?.any fun c => !c.isDigit

theorem number?_text {f : Field} (h : separates f.label = true) (rest : List Char) :
    number? (f.text ++ rest) = some (f.value, f.label.toList ++ rest) := by
  obtain ⟨c, s, hlabel, hc⟩ : ∃ c s, f.label.toList = c :: s ∧ c.isDigit = false := by
    unfold separates at h
    cases hs : f.label.toList with
    | nil => simp [hs] at h
    | cons c s => exact ⟨c, s, rfl, by simpa [hs] using h⟩
  rw [Field.text, List.append_assoc, hlabel]
  exact number?_append f.isDigit f.value_eq hc _

theorem number?_ofNat (n : Nat) (label : String) (h : separates label = true) (rest : List Char) :
    number? ((Field.ofNat n label).text ++ rest) = some (n, label.toList ++ rest) :=
  number?_text (f := .ofNat n label) h rest

theorem fields?_flatMap_text {fs : List Field} (h : ∀ f ∈ fs, separates f.label = true) :
    fields? (fs.map Field.label) (fs.flatMap Field.text) = some (fs.map Field.value) := by
  induction fs with
  | nil => rfl
  | cons f fs ih =>
    rw [List.forall_mem_cons] at h
    have hrest : f.label.toList.isPrefixOf? (f.label.toList ++ fs.flatMap Field.text) =
        some (fs.flatMap Field.text) := List.isPrefixOf?_eq_some_iff_append_eq.mpr rfl
    rw [List.map_cons, List.flatMap_cons, fields?, number?_text h.1, Option.bind_some, hrest,
      Option.bind_some, ih h.2]
    rfl

theorem not_mem_flatMap_text {fs : List Field} {c : Char} (hc : c.isDigit = false)
    (h : ∀ f ∈ fs, c ∉ f.label.toList) : c ∉ fs.flatMap Field.text := by
  intro hmem
  obtain ⟨f, hf, hmem⟩ := List.mem_flatMap.mp hmem
  obtain hmem | hmem := List.mem_append.mp hmem
  · rw [f.isDigit c hmem] at hc
    cases hc
  · exact h f hf hmem

end CalibratedSweep.Text
