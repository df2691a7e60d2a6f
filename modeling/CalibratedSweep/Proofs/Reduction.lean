import CalibratedSweep.Row
import Mathlib.Algebra.Ring.Nat

namespace CalibratedSweep

def Incomplete.attempts (i : Incomplete) : Nat := i.successes + i.failures + i.timeouts

namespace Outcome

theorem length_eq_countP (outcomes : List Outcome) :
    outcomes.length =
      outcomes.countP isSuccess + outcomes.countP isFailure + outcomes.countP isTimeout := by
  induction outcomes with
  | nil => rfl
  | cons o outcomes ih =>
    rw [List.length_cons, List.countP_cons, List.countP_cons, List.countP_cons, ih]
    cases o <;> simp only [isSuccess, isFailure, isTimeout, if_true, Bool.false_eq_true,
      if_false] <;> omega

theorem length_scores (outcomes : List Outcome) :
    (outcomes.filterMap score?).length = outcomes.countP isSuccess := by
  induction outcomes with
  | nil => rfl
  | cons o outcomes ih =>
    cases o <;> simp [List.filterMap_cons, List.countP_cons, score?, isSuccess, ih]

theorem all_scores_iff {outcomes : List Outcome} :
    outcomes.countP isFailure = 0 ∧ outcomes.countP isTimeout = 0 ↔
      ∀ o ∈ outcomes, o.isSuccess = true := by
  have hlength := length_eq_countP outcomes
  rw [← List.countP_eq_length]
  omega

theorem eq_map_success {outcomes : List Outcome} (h : ∀ o ∈ outcomes, o.isSuccess = true) :
    outcomes = (outcomes.filterMap score?).map success := by
  induction outcomes with
  | nil => rfl
  | cons o outcomes ih =>
    obtain ⟨ho, hrest⟩ := List.forall_mem_cons.mp h
    cases o with
    | success x => exact congrArg (success x :: ·) (ih hrest)
    | failure code reason => cases ho
    | timeout bound => cases ho

end Outcome

theorem filterMap_score?_success (scores : List Float) :
    (scores.map Outcome.success).filterMap Outcome.score? = scores := by
  induction scores with
  | nil => rfl
  | cons x scores ih => simpa [Outcome.score?] using ih

theorem countP_scores (scores : List Float) :
    (scores.map Outcome.success).countP Outcome.isSuccess = scores.length ∧
      (scores.map Outcome.success).countP Outcome.isFailure = 0 ∧
      (scores.map Outcome.success).countP Outcome.isTimeout = 0 := by
  refine ⟨?_, ?_, ?_⟩
  · rw [List.countP_map]
    exact List.countP_eq_length.mpr fun _ _ => rfl
  · simp [List.countP_eq_zero, Outcome.isFailure]
  · simp [List.countP_eq_zero, Outcome.isTimeout]

/--
The row that these scores of `c` make: their sum from left to right over their number, and the root
of the sum of their squared distances from that over their number.
-/
structure Row.Averages (row : Row) (c : Configuration) (runs : UInt32) (scores : List Float) :
    Prop where
  configuration : row.configuration = c
  runs : row.runs = runs
  score : row.score = if scores = [] then 0.0
    else scores.foldl (fun sum x => sum + x) (-0.0) / Float.ofNat scores.length
  scoreError : row.scoreError = if scores.length < 2 then 0.0
    else (scores.foldl (fun sum x => sum + (x - row.score) * (x - row.score)) (-0.0) /
      Float.ofNat scores.length).sqrt

theorem Row.averages (c : Configuration) (runs : UInt32) (scores : List Float) :
    Row.Averages ⟨c, Scores.mean scores, Scores.deviation scores, runs⟩ c runs scores where
  configuration := rfl
  runs := rfl
  score := by
    cases scores with
    | nil => rfl
    | cons x scores => rfl
  scoreError := by
    rw [Scores.deviation, Scores.sum, List.foldl_map]
    rfl

theorem reduce_scores (c : Configuration) (runs : UInt32) {scores : List Float}
    (h : scores.length = runs.toNat) : reduce c (scores.map .success) runs =
      .ok ⟨c, Scores.mean scores, Scores.deviation scores, runs⟩ := by
  obtain ⟨-, hf, ht⟩ := countP_scores scores
  simp only [reduce, filterMap_score?_success, hf, ht, h, and_self, if_true]

theorem reduce_error (c : Configuration) (runs : UInt32) {outcomes : List Outcome}
    (h : ¬((∀ o ∈ outcomes, o.isSuccess = true) ∧ outcomes.length = runs.toNat)) :
    ∃ missing, reduce c outcomes runs = .error missing ∧ missing.expected = runs ∧
      missing.firstProblem = firstProblemFrom 1 outcomes := by
  unfold reduce
  dsimp only
  rw [if_neg]
  · exact ⟨_, rfl, rfl, rfl⟩
  · rintro ⟨hf, ht, hlength⟩
    have hall := Outcome.all_scores_iff.mp ⟨hf, ht⟩
    rw [Outcome.length_scores, List.countP_eq_length.mpr hall] at hlength
    exact h ⟨hall, hlength⟩

theorem reduce_failed (c : Configuration) (runs : UInt32) {outcomes : List Outcome} {bad : Outcome}
    (hm : bad ∈ outcomes) (hb : bad.isSuccess = false) :
    ∃ missing, reduce c outcomes runs = .error missing := by
  have hnot : ¬((∀ o ∈ outcomes, o.isSuccess = true) ∧ outcomes.length = runs.toNat) := by
    rintro ⟨hall, -⟩
    rw [hall bad hm] at hb
    cases hb
  obtain ⟨missing, hmissing, -⟩ := reduce_error c runs hnot
  exact ⟨missing, hmissing⟩

theorem key_of_reduce {c : Configuration} {outcomes : List Outcome} {runs : UInt32} {row : Row}
    (h : reduce c outcomes runs = .ok row) : row.key = .ofConfiguration c runs := by
  unfold reduce at h
  dsimp only at h
  split at h
  · cases h; rfl
  · cases h

structure Incomplete.Counts (i : Incomplete) (c : Configuration) (outcomes : List Outcome) : Prop where
  configuration : i.configuration = c
  attempts : i.attempts = outcomes.length
  successes : i.successes = outcomes.countP Outcome.isSuccess
  failures : i.failures = outcomes.countP Outcome.isFailure
  timeouts : i.timeouts = outcomes.countP Outcome.isTimeout

theorem Incomplete.counts_of_reduce {c : Configuration} {outcomes : List Outcome} {runs : UInt32}
    {i : Incomplete} (h : reduce c outcomes runs = .error i) : i.Counts c outcomes := by
  unfold reduce at h
  dsimp only at h
  split at h
  · cases h
  · cases h
    refine ⟨rfl, ?_, Outcome.length_scores outcomes, rfl, rfl⟩
    rw [attempts, Outcome.length_scores, ← Outcome.length_eq_countP]

/-- The first outcome without a score is at place `j`, counted from 0. -/
structure FirstBadAt (outcomes : List Outcome) (j : Nat) (bad : Outcome) : Prop where
  here : outcomes[j]? = some bad
  bad : bad.isSuccess = false
  before : ∀ i < j, ∀ o, outcomes[i]? = some o → o.isSuccess = true

variable {outcomes : List Outcome} {o bad : Outcome} {j : Nat}

theorem firstBadAt_zero_iff : FirstBadAt (o :: outcomes) 0 bad ↔ o = bad ∧ o.isSuccess = false := by
  constructor
  · rintro ⟨hhere, hbad, -⟩
    obtain rfl : o = bad := by simpa using hhere
    exact ⟨rfl, hbad⟩
  · rintro ⟨rfl, hbad⟩
    exact ⟨rfl, hbad, fun i hi => absurd hi (Nat.not_lt_zero i)⟩

theorem firstBadAt_succ_iff :
    FirstBadAt (o :: outcomes) (j + 1) bad ↔ o.isSuccess = true ∧ FirstBadAt outcomes j bad := by
  constructor
  · rintro ⟨hhere, hbad, hbefore⟩
    refine ⟨hbefore 0 (Nat.succ_pos j) o rfl, by simpa using hhere, hbad, fun i hi o' ho' => ?_⟩
    exact hbefore (i + 1) (Nat.succ_lt_succ hi) o' (by simpa using ho')
  · rintro ⟨ho, hhere, hbad, hbefore⟩
    refine ⟨by simpa using hhere, hbad, fun i hi o' ho' => ?_⟩
    cases i with
    | zero =>
      obtain rfl : o = o' := by simpa using ho'
      exact ho
    | succ i => exact hbefore i (Nat.lt_of_succ_lt_succ hi) o' (by simpa using ho')

theorem firstProblemFrom_eq_none_iff {place : Nat} :
    firstProblemFrom place outcomes = none ↔ ∀ o ∈ outcomes, o.isSuccess = true := by
  induction outcomes generalizing place with
  | nil => simp [firstProblemFrom]
  | cons o outcomes ih =>
    rw [firstProblemFrom, List.forall_mem_cons]
    split
    · rename_i ho
      rw [ih]
      exact ⟨fun h => ⟨ho, h⟩, fun h => h.2⟩
    · rename_i ho
      exact ⟨nofun, fun h => absurd h.1 ho⟩

theorem firstProblemFrom_eq_some_iff {place : Nat} {text : String} :
    firstProblemFrom place outcomes = some text ↔
      ∃ j bad, FirstBadAt outcomes j bad ∧
        text = "repetition " ++ toString (place + j) ++ ": " ++ bad.text := by
  induction outcomes generalizing place with
  | nil =>
    constructor
    · exact nofun
    · rintro ⟨j, bad, ⟨hhere, -, -⟩, -⟩
      simp at hhere
  | cons o outcomes ih =>
    rw [firstProblemFrom]
    split
    · rename_i ho
      rw [ih]
      constructor
      · rintro ⟨j, bad, hbad, rfl⟩
        exact ⟨j + 1, bad, firstBadAt_succ_iff.mpr ⟨ho, hbad⟩, by rw [Nat.add_right_comm, Nat.add_assoc]⟩
      · rintro ⟨j, bad, hbad, rfl⟩
        cases j with
        | zero =>
          have hnot := (firstBadAt_zero_iff.mp hbad).2
          rw [ho] at hnot
          cases hnot
        | succ j =>
          exact ⟨j, bad, (firstBadAt_succ_iff.mp hbad).2, by rw [Nat.add_right_comm, Nat.add_assoc]⟩
    · rename_i ho
      have ho : o.isSuccess = false := by simpa using ho
      constructor
      · rintro ⟨⟩
        exact ⟨0, o, firstBadAt_zero_iff.mpr ⟨rfl, ho⟩, rfl⟩
      · rintro ⟨j, bad, hbad, rfl⟩
        cases j with
        | zero =>
          obtain ⟨rfl, -⟩ := firstBadAt_zero_iff.mp hbad
          rfl
        | succ j =>
          have hyes := (firstBadAt_succ_iff.mp hbad).1
          rw [ho] at hyes
          cases hyes

structure Incomplete.Reports (i : Incomplete) (c : Configuration) (outcomes : List Outcome)
    (runs : UInt32) : Prop extends i.Counts c outcomes where
  expected : i.expected = runs
  small : i.attempts < 2 ^ 32
  unproblematic : i.firstProblem = none ↔ ∀ o ∈ outcomes, o.isSuccess = true
  problem : ∀ text, i.firstProblem = some text ↔ ∃ j bad, FirstBadAt outcomes j bad ∧
    text = "repetition " ++ toString (j + 1) ++ ": " ++ bad.text

/--
The row of a configuration is there exactly if every outcome is a score and there are as many as runs
were asked for. Otherwise the outcomes are counted, in 32 bits each, and the first problem is that of
the first outcome without a score.
-/
theorem outcomes_reduced (c : Configuration) (outcomes : List Outcome) (runs : UInt32)
    (hl : outcomes.length < 2 ^ 32) :
    ((∀ o ∈ outcomes, o.isSuccess = true) ∧ outcomes.length = runs.toNat →
      ∃ scores row, outcomes = scores.map Outcome.success ∧ reduce c outcomes runs = .ok row ∧
        row.Averages c runs scores) ∧
    (¬((∀ o ∈ outcomes, o.isSuccess = true) ∧ outcomes.length = runs.toNat) →
      ∃ missing, reduce c outcomes runs = .error missing ∧ missing.Reports c outcomes runs) := by
  constructor
  · rintro ⟨hall, hlength⟩
    have hscores := Outcome.eq_map_success hall
    rw [hscores, List.length_map] at hlength
    refine ⟨_, _, hscores, ?_, Row.averages c runs _⟩
    rw [hscores, reduce_scores c runs hlength, filterMap_score?_success]
  · intro hnot
    obtain ⟨missing, hmissing, hexpected, hproblem⟩ := reduce_error c runs hnot
    have hcounts := Incomplete.counts_of_reduce hmissing
    refine ⟨missing, hmissing, hcounts, hexpected, hcounts.attempts ▸ hl, ?_, fun text => ?_⟩
    · rw [hproblem, firstProblemFrom_eq_none_iff]
    · rw [hproblem, firstProblemFrom_eq_some_iff]
      simp only [Nat.add_comm 1]

theorem outcomes_reduced_mixed :
    let c : Configuration := ⟨"A", ⟨1, 1⟩, 64, 1000, 0⟩
    let mixed : List Outcome := [.success 1, .failure (some 2) "boom", .timeout ⟨0⟩, .success 3]
    (∃ row, reduce c [.success 1, .success 3] 2 = .ok row ∧ row.Averages c 2 [1, 3]) ∧
      ∃ missing, reduce c mixed 4 = .error missing ∧ missing.Reports c mixed 4 ∧
        missing.successes = 2 ∧ missing.failures = 1 ∧ missing.timeouts = 1 ∧
        missing.firstProblem = some "repetition 2: exit code 2: boom" := by
  intro c mixed
  have hfull : ∀ o ∈ [Outcome.success 1, .success 3], o.isSuccess = true := by decide
  have hbad : FirstBadAt mixed 1 (.failure (some 2) "boom") := by
    refine ⟨rfl, rfl, fun i hi o ho => ?_⟩
    obtain rfl : i = 0 := by omega
    cases ho
    rfl
  have hnot : ¬((∀ o ∈ mixed, o.isSuccess = true) ∧ mixed.length = (4 : UInt32).toNat) := by decide
  obtain ⟨scores, row, hscores, hrow, haverages⟩ :=
    (outcomes_reduced c [.success 1, .success 3] 2 (by decide)).1 ⟨hfull, rfl⟩
  obtain rfl : [1, 3] = scores := by
    rw [← filterMap_score?_success scores, ← hscores]
    rfl
  obtain ⟨missing, hmissing, hreports⟩ := (outcomes_reduced c mixed 4 (by decide)).2 hnot
  have htext : "repetition 2: exit code 2: boom" =
      "repetition " ++ toString (1 + 1) ++ ": " ++ (Outcome.failure (some 2) "boom").text := by decide
  exact ⟨⟨row, hrow, haverages⟩, missing, hmissing, hreports, hreports.successes, hreports.failures,
    hreports.timeouts, (hreports.problem _).mpr ⟨1, _, hbad, htext⟩⟩

end CalibratedSweep
