import CalibratedSweep.Calibration.Calibrator
import CalibratedSweep.Proofs.Text.NumberLine

namespace CalibratedSweep

namespace Calibration

open Text (LineEnd Margins Shows)

theorem readLine_of_shows {line : List Char} {n : UInt64} (h : Shows line n) : readLine line = .ok n := by
  rw [readLine, Text.uint64?_trim_eq_some_iff.mpr h]

theorem readLine_of_not_shows {line : List Char} (h : ¬∃ n, Shows line n) :
    readLine line = .error (.invalidValue (String.ofList line)) := by
  rw [readLine, Text.uint64?_trim_eq_none_iff.mpr h]

def printed (c : Calibration) (m m' : Margins) (e : LineEnd) : List Char :=
  m.around (Numeral.digits c.center.toNat) ++ e.text ++ m'.around (Numeral.digits c.amplitude.toNat)

end Calibration

namespace Calibrator

open Text (IsLines LineEnd Margins Shows)

inductive Means (delay : UInt64) : List (List Char) → CalibrationResult → Prop
  | missing {lines : List (List Char)} (h : lines.length < 2) :
      Means delay lines (.error ⟨delay, .missingOutput lines.length⟩)
  | numbers {first second : List Char} {center amplitude : UInt64} (hf : Shows first center)
      (hs : Shows second amplitude) (more : List (List Char)) :
      Means delay (first :: second :: more) (.ok ⟨center, amplitude⟩)
  | badFirst {first : List Char} (hf : ¬∃ n, Shows first n) (second : List Char)
      (more : List (List Char)) :
      Means delay (first :: second :: more) (.error ⟨delay, .invalidValue (String.ofList first)⟩)
  | badSecond {first second : List Char} (hf : ∃ n, Shows first n) (hs : ¬∃ n, Shows second n)
      (more : List (List Char)) :
      Means delay (first :: second :: more) (.error ⟨delay, .invalidValue (String.ofList second)⟩)

def ofLines (delay : UInt64) : List (List Char) → CalibrationResult
  | first :: second :: _ =>
    match Calibration.readLine first, Calibration.readLine second with
    | .ok center, .ok amplitude => .ok ⟨center, amplitude⟩
    | .ok _, .error f => .error ⟨delay, f⟩
    | .error f, _ => .error ⟨delay, f⟩
  | lines => .error ⟨delay, .missingOutput lines.length⟩

theorem interpret_ok (delay : UInt64) (stdout : String) :
    interpret delay (.ok stdout) = ofLines delay (Text.lines stdout.toList) := by
  simp only [interpret, Except.bind, Calibration.read]
  rcases Text.lines stdout.toList with _ | ⟨first, _ | ⟨second, more⟩⟩
  · rfl
  · rfl
  · dsimp only [ofLines]
    cases Calibration.readLine first <;> cases Calibration.readLine second <;> rfl

theorem ofLines_take (delay : UInt64) (lines : List (List Char)) :
    ofLines delay (lines.take 2) = ofLines delay lines := by
  rcases lines with _ | ⟨first, _ | ⟨second, more⟩⟩ <;> rfl

theorem means_ofLines (delay : UInt64) (lines : List (List Char)) :
    Means delay lines (ofLines delay lines) := by
  rcases lines with _ | ⟨first, _ | ⟨second, more⟩⟩
  · exact .missing (by decide)
  · exact .missing Nat.one_lt_two
  · dsimp only [ofLines]
    by_cases hf : ∃ n, Shows first n
    · by_cases hs : ∃ n, Shows second n
      · obtain ⟨center, hcenter⟩ := hf
        obtain ⟨amplitude, hamplitude⟩ := hs
        rw [Calibration.readLine_of_shows hcenter, Calibration.readLine_of_shows hamplitude]
        exact .numbers hcenter hamplitude more
      · obtain ⟨center, hcenter⟩ := hf
        rw [Calibration.readLine_of_shows hcenter, Calibration.readLine_of_not_shows hs]
        exact .badSecond ⟨center, hcenter⟩ hs more
    · rw [Calibration.readLine_of_not_shows hf]
      exact .badFirst hf second more

theorem Means.eq_ofLines {delay : UInt64} {lines : List (List Char)} {result : CalibrationResult}
    (h : Means delay lines result) : ofLines delay lines = result := by
  cases h with
  | missing h =>
    rcases lines with _ | ⟨first, _ | ⟨second, more⟩⟩
    · rfl
    · rfl
    · rw [List.length_cons, List.length_cons] at h
      omega
  | numbers hf hs more =>
    rw [ofLines, Calibration.readLine_of_shows hf, Calibration.readLine_of_shows hs]
  | badFirst hf second more => rw [ofLines, Calibration.readLine_of_not_shows hf]
  | badSecond hf hs more =>
    obtain ⟨center, hcenter⟩ := hf
    rw [ofLines, Calibration.readLine_of_shows hcenter, Calibration.readLine_of_not_shows hs]

theorem interpret_eq_iff {delay : UInt64} {stdout : String} {result : CalibrationResult} :
    interpret delay (.ok stdout) = result ↔
      ∃ lines, IsLines stdout.toList lines ∧ Means delay lines result := by
  rw [interpret_ok]
  constructor
  · rintro rfl
    exact ⟨Text.lines stdout.toList, Text.lines_eq_iff.mp rfl, means_ofLines delay _⟩
  · rintro ⟨lines, hlines, h⟩
    rw [hlines.lines_eq, h.eq_ofLines]

/--
What an answer to a request for `delay` tells: its output is read line by line, its error is taken as
it is.
-/
inductive Tells (delay : UInt64) : Except Calibration.Error String → CalibrationResult → Prop
  | printed {stdout : String} {lines : List (List Char)} {result : CalibrationResult}
      (hl : IsLines stdout.toList lines) (h : Means delay lines result) : Tells delay (.ok stdout) result
  | failed (e : Calibration.Error) : Tells delay (.error e) (.error e)

theorem interpret_tells (delay : UInt64) (answer : Except Calibration.Error String) :
    Tells delay answer (interpret delay answer) := by
  cases answer with
  | error e => exact .failed e
  | ok stdout =>
    obtain ⟨lines, hlines, h⟩ := interpret_eq_iff.mp (Eq.refl (interpret delay (.ok stdout)))
    exact .printed hlines h

theorem interpret_of_shows {delay : UInt64} {stdout first second : List Char}
    {more : List (List Char)} {c : Calibration} (hlines : Text.lines stdout = first :: second :: more)
    (hf : Shows first c.center) (hs : Shows second c.amplitude) :
    interpret delay (.ok (String.ofList stdout)) = .ok c := by
  rw [interpret_eq_iff, String.toList_ofList]
  exact ⟨first :: second :: more, Text.lines_eq_iff.mp hlines, .numbers hf hs more⟩

theorem interpret_printed (delay : UInt64) (c : Calibration) (m m' : Margins) (e : LineEnd) :
    interpret delay (.ok (String.ofList (c.printed m m' e))) = .ok c := by
  obtain ⟨first, hfirst, hf⟩ :=
    m.exists_line_around c.center e (m'.around (Numeral.digits c.amplitude.toNat))
  rw [m'.lines_around] at hfirst
  exact interpret_of_shows hfirst hf (m'.shows_around c.amplitude)

theorem interpret_printed_append (delay : UInt64) (c : Calibration) (m m' : Margins) (e e' : LineEnd)
    (more : List Char) :
    interpret delay (.ok (String.ofList (c.printed m m' e ++ e'.text ++ more))) = .ok c := by
  obtain ⟨second, hsecond, hs⟩ := m'.exists_line_around c.amplitude e' more
  obtain ⟨first, hfirst, hf⟩ := m.exists_line_around c.center e
    (m'.around (Numeral.digits c.amplitude.toNat) ++ e'.text ++ more)
  have hlines : Text.lines (c.printed m m' e ++ e'.text ++ more) = first :: second :: Text.lines more := by
    rw [← hsecond, ← hfirst, Calibration.printed]
    simp only [List.append_assoc]
  exact interpret_of_shows hlines hf hs

/--
What a probe prints is what it found, whatever blanks and line ends it prints and whatever it goes on to
say. Any output has one meaning, and this depends on its first two lines only.
-/
theorem probe_outputs_read (delay : UInt64) :
    (∀ (c : Calibration) (m m' : Margins) (e : LineEnd),
      interpret delay (.ok (String.ofList (c.printed m m' e))) = .ok c ∧
        ∀ (e' : LineEnd) (more : List Char),
          interpret delay (.ok (String.ofList (c.printed m m' e ++ e'.text ++ more))) = .ok c) ∧
      (∀ stdout result, interpret delay (.ok stdout) = result ↔
        ∃ lines, IsLines stdout.toList lines ∧ Means delay lines result) ∧
      (∀ stdout stdout' lines lines', IsLines stdout.toList lines → IsLines stdout'.toList lines' →
        lines.take 2 = lines'.take 2 → interpret delay (.ok stdout) = interpret delay (.ok stdout')) ∧
      ∀ stdout more, 2 ≤ stdout.toList.count '\n' →
        interpret delay (.ok (stdout ++ more)) = interpret delay (.ok stdout) := by
  refine ⟨fun c m m' e => ⟨?_, fun e' more => ?_⟩, fun _ _ => interpret_eq_iff, ?_, ?_⟩
  · exact interpret_printed delay c m m' e
  · exact interpret_printed_append delay c m m' e e' more
  · intro stdout stdout' lines lines' hlines hlines' hsame
    rw [interpret_ok, interpret_ok, hlines.lines_eq, hlines'.lines_eq, ← ofLines_take, hsame, ofLines_take]
  · intro stdout more hended
    rw [interpret_ok, interpret_ok, ← ofLines_take, String.toList_append, Text.take_lines_append hended,
      ofLines_take]

theorem probe_outputs_read_noise :
    2 ≤ " 10 \r\n+05\n".toList.count '\n' ∧
      IsLines " 10 \r\n+05\n".toList [" 10 ".toList, "+05".toList] ∧
      IsLines " 10 \n+05".toList [" 10 ".toList, "+05".toList] ∧
      interpret 1000 (.ok " 10 \n+05") = .ok ⟨10, 5⟩ ∧
      interpret 1000 (.ok " 10 \r\n+05\n") = interpret 1000 (.ok " 10 \n+05") ∧
      interpret 1000 (.ok (" 10 \r\n+05\n" ++ "noise")) = interpret 1000 (.ok " 10 \r\n+05\n") := by
  have hfeeds : 2 ≤ " 10 \r\n+05\n".toList.count '\n' := by decide
  have hlines : IsLines " 10 \r\n+05\n".toList [" 10 ".toList, "+05".toList] :=
    Text.lines_eq_iff.mp (by decide)
  have hlines' : IsLines " 10 \n+05".toList [" 10 ".toList, "+05".toList] :=
    Text.lines_eq_iff.mp (by decide)
  obtain ⟨-, -, hsame, hmore⟩ := probe_outputs_read 1000
  exact ⟨hfeeds, hlines, hlines', by rfl, hsame _ _ _ _ hlines hlines' rfl, hmore _ _ hfeeds⟩

end Calibrator

end CalibratedSweep
