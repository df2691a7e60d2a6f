import CalibratedSweep.Proofs.Text.Lines
import CalibratedSweep.Supervision.Programs
import Mathlib.Algebra.Group.Nat.Defs

namespace CalibratedSweep

namespace Child

/--
The child ended and both pipes were closed, before the bound was over if there is a time on the clock
at which it is over.
-/
def InTime (c : Child) (bound : Duration) : Prop :=
  ∃ ended out err, c.ends = some ended ∧ c.stdoutCloses = some out ∧ c.stderrCloses = some err ∧
    (c.started.nanos + bound.nanos < 2 ^ 63 * 1000000000 →
      ended.nanos < bound.nanos ∧ out.nanos < bound.nanos ∧ err.nanos < bound.nanos)

theorem deadline?_eq (c : Child) (bound : Duration) : c.deadline? bound =
    if c.started.nanos + bound.nanos < 2 ^ 63 * 1000000000 then some bound else none := by
  have hlast : c.started.plus bound ≤ lastInstant ↔
      c.started.nanos + bound.nanos < 2 ^ 63 * 1000000000 := by
    change c.started.nanos + bound.nanos ≤ 2 ^ 63 * 1000000000 - 1 ↔ _
    omega
  simp only [deadline?, deadlineFrom, hlast]

theorem isBefore_eq_true_iff {deadline time : Option Duration} :
    isBefore deadline time = true ↔
      ∃ t, time = some t ∧ ∀ d, deadline = some d → t.nanos < d.nanos := by
  cases time <;> cases deadline <;> simp [isBefore]

theorem finishesWithin_eq_true_iff {c : Child} {bound : Duration} :
    c.finishesWithin bound = true ↔ c.InTime bound := by
  simp only [finishesWithin, Bool.and_eq_true, isBefore_eq_true_iff, InTime, deadline?_eq,
    Option.ite_none_right_eq_some, Option.some.injEq, and_imp]
  constructor
  · rintro ⟨⟨⟨ended, hends, hended⟩, out, hout, houts⟩, err, herr, herrs⟩
    exact ⟨ended, out, err, hends, hout, herr, fun h => ⟨hended _ h rfl, houts _ h rfl, herrs _ h rfl⟩⟩
  · rintro ⟨ended, out, err, hends, hout, herr, h⟩
    exact ⟨⟨⟨ended, hends, fun _ hd hb => hb ▸ (h hd).1⟩, out, hout, fun _ hd hb => hb ▸ (h hd).2.1⟩,
      err, herr, fun _ hd hb => hb ▸ (h hd).2.2⟩

theorem endingWithin_of_inTime {c : Child} {bound : Duration} (h : c.InTime bound) :
    c.endingWithin bound =
      .finished c.status (Bytes.lossyText c.stdout) (Bytes.lossyText c.stderr) :=
  if_pos (finishesWithin_eq_true_iff.mpr h)

theorem endingWithin_of_not_inTime {c : Child} {bound : Duration} (h : ¬c.InTime bound) :
    c.endingWithin bound = .timedOut :=
  if_neg fun hc => h (finishesWithin_eq_true_iff.mp hc)

end Child

theorem ExitStatus.succeeded_eq_true_iff {s : ExitStatus} : s.succeeded = true ↔ s = .exited 0 :=
  beq_iff_eq

namespace Score

/-- A text that shows a score: of its lines all but one are blank, and this one is the number. -/
def Shows (text : String) (x : Float) : Prop :=
  ∃ above line below core, Text.IsLines text.toList (above ++ line :: below) ∧
    (∀ other ∈ above ++ below, Text.AllBlank other) ∧ Text.Framed core line ∧ core ≠ [] ∧
    Decimal.read? core = some x ∧ x.isFinite = true ∧ 0.0 ≤ x

theorem filledLines_eq_singleton_iff {text : String} {core : List Char} :
    filledLines text = [core] ↔ ∃ above line below,
      Text.IsLines text.toList (above ++ line :: below) ∧
        (∀ other ∈ above ++ below, Text.AllBlank other) ∧ Text.Framed core line ∧ core ≠ [] := by
  have hblank (other : List Char) :
      ¬((fun line => !line.isEmpty) ∘ Text.trim) other = true ↔ Text.AllBlank other := by
    rw [← Text.trim_eq_nil_iff]
    simp
  simp only [filledLines, List.filter_map, List.map_eq_singleton_iff, List.filter_eq_cons_iff,
    List.filter_eq_nil_iff, hblank, Text.trim_eq_iff]
  constructor
  · rintro ⟨line, ⟨above, below, hlines, habove, hline, hbelow⟩, hcore⟩
    refine ⟨above, line, below, Text.lines_eq_iff.mp hlines, ?_, hcore, ?_⟩
    · exact fun other h => (List.mem_append.mp h).elim (habove other) (hbelow other)
    · simpa [hcore.trim_eq] using hline
  · rintro ⟨above, line, below, hlines, hothers, hcore, hne⟩
    refine ⟨line, ⟨above, below, Text.lines_eq_iff.mpr hlines, ?_, ?_, ?_⟩, hcore⟩
    · exact fun other h => hothers other (List.mem_append_left _ h)
    · simpa [hcore.trim_eq] using hne
    · exact fun other h => hothers other (List.mem_append_right _ h)

theorem ofLine_eq_ok_iff {line : List Char} {x : Float} : ofLine line = .ok x ↔
    Decimal.read? line = some x ∧ x.isFinite = true ∧ 0.0 ≤ x := by
  unfold ofLine
  cases Decimal.read? line with
  | none => simp
  | some y =>
    dsimp only
    split <;> rename_i hy <;> rw [Bool.and_eq_true, decide_eq_true_eq] at hy
    · constructor
      · rintro ⟨⟩
        exact ⟨rfl, hy⟩
      · rintro ⟨⟨⟩, -⟩
        rfl
    · constructor
      · exact nofun
      · rintro ⟨⟨⟩, hx⟩
        exact absurd hx hy

theorem read_eq_ok_iff {text : String} {x : Float} : read text = .ok x ↔ Shows text x := by
  have hread : read text = .ok x ↔ ∃ core, filledLines text = [core] ∧ ofLine core = .ok x := by
    unfold read
    rcases filledLines text with _ | ⟨core, _ | ⟨other, rest⟩⟩ <;> simp
  rw [hread]
  simp only [filledLines_eq_singleton_iff, ofLine_eq_ok_iff]
  constructor
  · rintro ⟨core, ⟨above, line, below, hlines, hothers, hcore, hne⟩, hx⟩
    exact ⟨above, line, below, core, hlines, hothers, hcore, hne, hx⟩
  · rintro ⟨above, line, below, core, hlines, hothers, hcore, hne, hx⟩
    exact ⟨core, ⟨above, line, below, hlines, hothers, hcore, hne⟩, hx⟩

end Score

def Succeeded {bound : Duration} (start : Except OsError (Supervised bound)) (c : Child) : Prop :=
  ∃ s, start = .ok s ∧ s.child = c ∧ c.InTime bound ∧ c.status = .exited 0

section Succeeded

variable {bound : Duration} {s : Supervised bound} {c : Child}

theorem not_succeeded_error {e : OsError} :
    ¬Succeeded (.error e : Except OsError (Supervised bound)) c := by
  rintro ⟨s, hs, -⟩
  cases hs

theorem exists_succeeded_iff {P : Child → Prop} : (∃ c, Succeeded (.ok s) c ∧ P c) ↔
    s.child.InTime bound ∧ s.child.status = .exited 0 ∧ P s.child := by
  constructor
  · rintro ⟨_, ⟨_, ⟨⟩, rfl, hin, hexit⟩, hp⟩
    exact ⟨hin, hexit, hp⟩
  · rintro ⟨hin, hexit, hp⟩
    exact ⟨s.child, ⟨s, rfl, rfl, hin, hexit⟩, hp⟩

theorem Supervised.ending_of_inTime (h : s.child.InTime bound) : s.ending =
    .finished s.child.status (Bytes.lossyText s.child.stdout) (Bytes.lossyText s.child.stderr) :=
  Child.endingWithin_of_inTime h

theorem Supervised.ending_of_not_inTime (h : ¬s.child.InTime bound) : s.ending = .timedOut :=
  Child.endingWithin_of_not_inTime h

end Succeeded

structure Outcome.Reads {bound : Duration} (start : Except OsError (Supervised bound))
    (o : Outcome) : Prop where
  timeout : ∀ b, o = .timeout b ↔ b = bound ∧ ∃ s, start = .ok s ∧ ¬s.child.InTime bound
  success : ∀ x, o = .success x ↔
    ∃ c, Succeeded start c ∧ Score.Shows (Bytes.lossyText c.stdout) x
  failure : ∀ code, (∃ reason, o = .failure code reason) ↔
    (code = none ∧ ∃ e, start = .error e) ∨
      ∃ s, start = .ok s ∧ s.child.InTime bound ∧ code = s.child.status.code? ∧
        ¬(s.child.status = .exited 0 ∧ ∃ x, Score.Shows (Bytes.lossyText s.child.stdout) x)

theorem WorkerProgram.outcome_reads (p : WorkerProgram) (bound : Duration)
    (start : Except OsError (Supervised bound)) : Outcome.Reads start (p.outcome bound start) := by
  unfold outcome
  cases start with
  | error e => constructor <;> simp [not_succeeded_error, eq_comm]
  | ok s =>
    dsimp only
    by_cases hin : s.child.InTime bound
    · rw [Supervised.ending_of_inTime hin]
      dsimp only
      by_cases hexit : s.child.status = .exited 0
      · rw [if_pos (ExitStatus.succeeded_eq_true_iff.mpr hexit)]
        cases hread : Score.read (Bytes.lossyText s.child.stdout) with
        | ok x =>
          constructor <;> simp [exists_succeeded_iff, hin, hexit, ← Score.read_eq_ok_iff, hread]
        | error e =>
          constructor <;>
            simp [exists_succeeded_iff, hin, hexit, ← Score.read_eq_ok_iff, hread, eq_comm]
      · rw [if_neg fun hs => hexit (ExitStatus.succeeded_eq_true_iff.mp hs)]
        constructor <;> simp [exists_succeeded_iff, hin, hexit, eq_comm]
    · rw [Supervised.ending_of_not_inTime hin]
      constructor <;> simp [exists_succeeded_iff, hin, eq_comm]

theorem WorkerProgram.verdict_eq_ok_iff {p : WorkerProgram}
    {start : Except OsError (Supervised p.validationBound)} :
    p.verdict start = .ok () ↔ ∃ c, Succeeded start c := by
  unfold verdict
  cases start with
  | error e => simp [not_succeeded_error]
  | ok s =>
    dsimp only
    by_cases hin : s.child.InTime p.validationBound
    · simp [Succeeded, Supervised.ending_of_inTime hin, hin, ExitStatus.succeeded_eq_true_iff]
    · simp [Succeeded, Supervised.ending_of_not_inTime hin, hin]

theorem ProbeProgram.answer_eq_ok_iff {p : ProbeProgram} {delay : UInt64}
    {start : Except OsError (Supervised p.bound)} {text : String} :
    p.answer delay start = .ok text ↔
      ∃ c, Succeeded start c ∧ text = Bytes.lossyText c.stdout := by
  unfold answer
  cases start with
  | error e => simp [not_succeeded_error]
  | ok s =>
    rw [exists_succeeded_iff]
    dsimp only
    by_cases hin : s.child.InTime p.bound
    · rw [Supervised.ending_of_inTime hin]
      by_cases hexit : s.child.status = .exited 0
      · simp [hin, hexit, ExitStatus.succeeded, eq_comm]
      · simp [hexit, ExitStatus.succeeded]
    · rw [Supervised.ending_of_not_inTime hin]
      simp [hin]

section Programs

variable {σ : Type} (launch : Launcher σ) (world : σ)

/--
However the child behaves, a measured run times out exactly when the child was not in time, gives a
score exactly when it exited with 0 and shows one, and fails otherwise; a queue is valid, and a probe
has its answer, exactly when the child was in time and exited with 0.
-/
theorem endings_read (p : WorkerProgram) (q : ProbeProgram) (c : Configuration) (k : Calibration)
    (bound : Duration) (queue : String) (request : Calibration.Request) :
    Outcome.Reads (launch (p.measurement c k) bound world).1
        ((p.worker launch).measure c k bound world).1 ∧
      (((p.worker launch).validate queue world).1 = .ok () ↔
        ∃ child, Succeeded (launch (p.validation queue) p.validationBound world).1 child) ∧
      ∀ text, (q.probe launch request world).1 = .ok text ↔
        ∃ child, Succeeded (launch ⟨q.binary, request.arguments, q.workingDir, []⟩ q.bound world).1
          child ∧ text = Bytes.lossyText child.stdout :=
  ⟨p.outcome_reads bound _, WorkerProgram.verdict_eq_ok_iff, fun _ => ProbeProgram.answer_eq_ok_iff⟩

end Programs

end CalibratedSweep
