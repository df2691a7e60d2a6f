import CalibratedSweep.Proofs.Decimal.Fixed
import CalibratedSweep.Proofs.Decimal.Reader
import CalibratedSweep.Proofs.Text.Fields
import CalibratedSweep.Report.Human
/-!
The duration that a text of the report shows misses the given one by less than a unit of its last place.
All that the text has is in range, except right below a minute, where the tenths are rounded up to
`60.0s`.
-/

namespace CalibratedSweep.Report

open Double
open Text (Field fields? fields?_flatMap_text number? number?_ofNat separates)

inductive Shown where
  | millis (n : ℕ)
  | tenths (n : ℕ)
  | minutes (m s : ℕ)
  | hours (h m : ℕ)
  deriving DecidableEq, Repr

namespace Shown

def fields : Shown → List Field
  | .millis n => [.ofNat n "ms"]
  | .tenths n => [.ofNat (n / 10) ".", .ofNat (n % 10) "s"]
  | .minutes m s => [.ofNat m "m ", .padded 2 s "s"]
  | .hours h m => [.ofNat h "h ", .padded 2 m "m"]

def text (d : Shown) : List Char := d.fields.flatMap Field.text

def value : Shown → ℕ
  | .millis n => n
  | .tenths n => 100 * n
  | .minutes m s => 60000 * m + 1000 * s
  | .hours h m => 3600000 * h + 60000 * m

def unit : Shown → ℕ
  | .millis _ => 1
  | .tenths _ => 100
  | .minutes _ _ => 1000
  | .hours _ _ => 60000

def InRange : Shown → Prop
  | .millis n => n < 1000
  | .tenths n => n < 600
  | .minutes m s => m < 60 ∧ s < 60 ∧ (Numeral.padded 2 s).length = 2
  | .hours _ m => m < 60 ∧ (Numeral.padded 2 m).length = 2

def last? (label : String) (s : List Char) : Option ℕ :=
  match fields? [label] s with
  | some [n] => some n
  | _ => none

/-- What is behind its first number tells the form of a duration. -/
def read? (s : List Char) : Option Shown :=
  (number? s).bind fun first =>
    match first.2 with
    | ['m', 's'] => some (.millis first.1)
    | '.' :: rest => (last? "s" rest).map fun tenth => .tenths (10 * first.1 + tenth)
    | 'm' :: ' ' :: rest => (last? "s" rest).map (.minutes first.1)
    | 'h' :: ' ' :: rest => (last? "m" rest).map (.hours first.1)
    | _ => none

theorem last?_text {f : Field} (h : separates f.label = true) : last? f.label f.text = some f.value := by
  have hfields : fields? [f.label] f.text = some [f.value] := by
    simpa using fields?_flatMap_text (List.forall_mem_singleton.mpr h)
  rw [last?, hfields]

theorem number?_two (n : ℕ) (label : String) (h : separates label = true) (f : Field) :
    number? ([Field.ofNat n label, f].flatMap Field.text) = some (n, label.toList ++ f.text) := by
  have hfirst := number?_ofNat n label h f.text
  simpa using hfirst

theorem read?_text (d : Shown) : read? d.text = some d := by
  have hseconds : separates "s" = true := rfl
  have hminutes : separates "m" = true := rfl
  cases d with
  | millis n =>
    have hfirst : number? (millis n).text = some (n, ['m', 's']) := number?_ofNat n "ms" rfl []
    rw [read?, hfirst]
    rfl
  | tenths n =>
    have hfirst : number? (tenths n).text = some (n / 10, '.' :: (Field.ofNat (n % 10) "s").text) :=
      number?_two (n / 10) "." rfl _
    have hlast : last? "s" (Field.ofNat (n % 10) "s").text = some (n % 10) :=
      last?_text (f := .ofNat (n % 10) "s") hseconds
    rw [read?, hfirst, Option.bind_some]
    change (last? "s" _).map (fun tenth => tenths (10 * (n / 10) + tenth)) = _
    rw [hlast, Option.map_some, Nat.div_add_mod]
  | minutes m s =>
    have hfirst : number? (minutes m s).text = some (m, 'm' :: ' ' :: (Field.padded 2 s "s").text) :=
      number?_two m "m " rfl _
    have hlast : last? "s" (Field.padded 2 s "s").text = some s :=
      last?_text (f := .padded 2 s "s") hseconds
    rw [read?, hfirst, Option.bind_some]
    change (last? "s" _).map (minutes m) = _
    rw [hlast, Option.map_some]
  | hours h m =>
    have hfirst : number? (hours h m).text = some (h, 'h' :: ' ' :: (Field.padded 2 m "m").text) :=
      number?_two h "h " rfl _
    have hlast : last? "m" (Field.padded 2 m "m").text = some m :=
      last?_text (f := .padded 2 m "m") hminutes
    rw [read?, hfirst, Option.bind_some]
    change (last? "m" _).map (hours h) = _
    rw [hlast, Option.map_some]

end Shown

section Seconds

variable {ms : UInt64} {n : ℕ}

theorem hasValue_thousand : HasValue 1000.0 1000 := by
  have hvalue : HasValue 1000.0 (1000 : ℕ) := Decimal.hasValue_pointZero (m := 1000) (by norm_num)
  exact_mod_cast hvalue

theorem hasValue_seconds (h : ms.toNat < 60000) :
    HasValue (ms.toFloat / 1000.0) (nearest (ms.toNat / 1000)) := by
  have hexact : nearest ms.toNat = ms.toNat :=
    nearest_of_representable (representable_natCast (h.trans (by norm_num)))
  have hdivided := holds_div (hasValue_toFloat ms) hasValue_thousand (by norm_num)
  have hsmall : (ms.toNat : ℚ) / 1000 ≤ 2 ^ 6 := by
    have hcast : (ms.toNat : ℚ) < 60000 := by exact_mod_cast h
    rw [div_le_iff₀ (by norm_num)]
    linarith
  rw [hexact] at hdivided
  exact hdivided.hasValue_of_le (by norm_num) (nearest_le_two_pow (by positivity) hsmall)

/-- The tenths of a second that are shown: the milliseconds are divided first and rounded then. -/
def roundedTenths (n : ℕ) : ℕ := roundEven (nearest (n / 1000) * 10)

theorem fixed_seconds (hlo : 1000 ≤ ms.toNat) (hhi : ms.toNat < 60000) :
    Decimal.fixed 1 (ms.toFloat / 1000.0) ++ ['s'] = (Shown.tenths (roundedTenths ms.toNat)).text := by
  have hone : (1 : ℚ) ≤ nearest (ms.toNat / 1000) := by
    apply le_nearest (by simpa using representable_natCast (n := 1) (by norm_num))
    rw [le_div_iff₀ (by norm_num), one_mul]
    exact_mod_cast hlo
  rw [Decimal.fixed_one (hasValue_seconds hhi) (by linarith), ← roundedTenths]
  simp [Shown.text, Shown.fields, Field.text, Field.ofNat]

theorem roundedTenths_close (hlo : 1000 ≤ n) (hhi : n < 60000) :
    100 * roundedTenths n ≤ n + 50 ∧ n ≤ 100 * roundedTenths n + 50 := by
  have hlo' : (1000 : ℚ) ≤ n := by exact_mod_cast hlo
  have hhi' : (n : ℚ) < 60000 := by exact_mod_cast hhi
  have hnormal : (2 : ℚ) ^ (-1022 : ℤ) ≤ n / 1000 := by
    have hone : (1 : ℚ) ≤ n / 1000 := by
      rw [le_div_iff₀ (by norm_num), one_mul]
      exact hlo'
    exact (zpow_le_one_of_nonpos₀ one_le_two (by norm_num)).trans hone
  have hnearest := abs_lt.mp (abs_nearest_sub_lt_mul hnormal)
  have hround := abs_le.mp
    (abs_roundEven_sub_le (mul_nonneg (nearest_nonneg (n / 1000)) (by norm_num : (0 : ℚ) ≤ 10)))
  rw [← roundedTenths] at hround
  -- Both roundings together are off by less than a millisecond more than the half of a tenth.
  have herror : (n : ℚ) / 1000 / 2 ^ 53 < 1 / 1000 := by
    rw [div_lt_iff₀ (by positivity)]
    norm_num
    linarith
  have hup : (100 * roundedTenths n : ℚ) < n + 51 := by linarith
  have hdown : (n : ℚ) < 100 * roundedTenths n + 51 := by linarith
  have hup' : 100 * roundedTenths n < n + 51 := by exact_mod_cast hup
  have hdown' : n < 100 * roundedTenths n + 51 := by exact_mod_cast hdown
  omega

theorem read?_sixty : Shown.read? "60.0s".toList = some (.tenths 600) := by decide +kernel

/-- The double nearest to 59.95 is greater than it, so the tie is no tie. -/
theorem roundedTenths_eq_600 : roundedTenths 59950 = 600 := by
  have hprinted : Decimal.fixed 1 ((59950 : UInt64).toFloat / 1000.0) ++ ['s'] = "60.0s".toList := by
    decide +kernel
  have htext : "60.0s".toList = (Shown.tenths (roundedTenths 59950)).text :=
    hprinted.symm.trans (fixed_seconds (by decide) (by decide))
  have hread := read?_sixty
  rw [htext, Shown.read?_text, Option.some_inj, Shown.tenths.injEq] at hread
  exact hread

theorem roundedTenths_lt_iff (hlo : 1000 ≤ n) (hhi : n < 60000) : roundedTenths n < 600 ↔ n < 59950 := by
  obtain ⟨hup, hdown⟩ := roundedTenths_close hlo hhi
  by_cases h : n = 59950
  · rw [h, roundedTenths_eq_600]
    decide
  · omega

end Seconds

def shown (n : ℕ) : Shown :=
  if n < 1000 then .millis n
  else if n < 60000 then .tenths (roundedTenths n)
  else if n < 3600000 then .minutes (n / 60000) (n % 60000 / 1000)
  else .hours (n / 3600000) (n % 3600000 / 60000)

theorem toList_durationText (ms : UInt64) : (durationText ms).toList = (shown ms.toNat).text := by
  rw [durationText, String.toList_ofList]
  unfold shown
  split_ifs with hmillis hseconds hminutes
  · simp [Shown.text, Shown.fields, Field.text, Field.ofNat]
  · exact fixed_seconds (by omega) hseconds
  · simp [Shown.text, Shown.fields, Field.text, Field.ofNat, Field.padded]
  · simp [Shown.text, Shown.fields, Field.text, Field.ofNat, Field.padded]

theorem abs_value_shown_sub_lt (n : ℕ) : |((shown n).value : ℤ) - n| < (shown n).unit := by
  unfold shown
  rw [abs_lt]
  split_ifs with hmillis hseconds hminutes
  · simp [Shown.value, Shown.unit]
  · obtain ⟨hup, hdown⟩ := roundedTenths_close (by omega) hseconds
    simp only [Shown.value, Shown.unit]
    omega
  · simp only [Shown.value, Shown.unit]
    omega
  · simp only [Shown.value, Shown.unit]
    omega

theorem inRange_shown_iff (n : ℕ) : (shown n).InRange ↔ n < 59950 ∨ 60000 ≤ n := by
  unfold shown
  split_ifs with hmillis hseconds hminutes
  · simp only [Shown.InRange]
    omega
  · rw [Shown.InRange, roundedTenths_lt_iff (by omega) hseconds]
    omega
  · have hs := Numeral.length_padded_two (n := n % 60000 / 1000) (by omega)
    simp only [Shown.InRange, hs, and_true]
    omega
  · have hm := Numeral.length_padded_two (n := n % 3600000 / 60000) (by omega)
    simp only [Shown.InRange, hm, and_true]
    omega

/--
The text of a duration is that of one of the forms and reads as such, and what it says is off by less than
one in the last place. All of it is in range unless the duration is up to 50 ms short of a minute.
-/
theorem durationText_reads_back (ms : UInt64) :
    ∃ d : Shown, Shown.read? (durationText ms).toList = some d ∧ (durationText ms).toList = d.text ∧
      |(d.value : ℤ) - ms.toNat| < d.unit ∧ (d.InRange ↔ ms < 59950 ∨ 60000 ≤ ms) := by
  refine ⟨shown ms.toNat, ?_, toList_durationText ms, abs_value_shown_sub_lt ms.toNat, ?_⟩
  · rw [toList_durationText, Shown.read?_text]
  · rw [inRange_shown_iff, UInt64.lt_iff_toNat_lt, UInt64.le_iff_toNat_le]
    rfl

theorem sixty_seconds_shown : durationText 59999 = "60.0s" ∧
    Shown.read? (durationText 59999).toList = some (.tenths 600) ∧ ¬(Shown.tenths 600).InRange := by
  have htext : durationText 59999 = "60.0s" := by decide +kernel
  refine ⟨htext, ?_, Nat.lt_irrefl 600⟩
  rw [htext, read?_sixty]

end CalibratedSweep.Report
