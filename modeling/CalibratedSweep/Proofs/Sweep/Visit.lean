import CalibratedSweep.Proofs.Calibration.Calibrator
import CalibratedSweep.Proofs.Reduction
import CalibratedSweep.Proofs.TimeBound
import CalibratedSweep.Sweep.Run
/-!
What one visit can do. Every statement about the visits of a sweep goes by these cases.
-/

namespace CalibratedSweep

namespace Sweep

/-- The outcomes of up to so many runs that end with the first one without a score. -/
inductive Stopped : Nat → List Outcome → Prop
  | none : Stopped 0 []
  | failed {o : Outcome} (ho : o.isSuccess = false) (left : Nat) : Stopped (left + 1) [o]
  | success {left : Nat} {outcomes : List Outcome} (x : Float) (h : Stopped left outcomes) :
    Stopped (left + 1) (.success x :: outcomes)

theorem Stopped.scores {left : Nat} {outcomes : List Outcome} (h : Stopped left outcomes) :
    (∃ scores : List Float, scores.length = left ∧ outcomes = scores.map .success) ∨
      ∃ scores : List Float, ∃ bad : Outcome, scores.length < left ∧ bad.isSuccess = false ∧
        outcomes = scores.map .success ++ [bad] := by
  induction h with
  | none => exact .inl ⟨[], rfl, rfl⟩
  | failed ho left => exact .inr ⟨[], _, Nat.zero_lt_succ left, ho, rfl⟩
  | success x h ih =>
    obtain ⟨scores, hl, rfl⟩ | ⟨scores, bad, hl, hb, rfl⟩ := ih
    · exact .inl ⟨x :: scores, by simp [hl], rfl⟩
    · exact .inr ⟨x :: scores, bad, by simpa using hl, hb, rfl⟩

def runEvents (c : Configuration) (k : Calibration) (bound : Duration) (repetition : Nat) :
    List Outcome → List Event
  | [] => []
  | o :: outcomes =>
    .measured c k bound o :: runNotice repetition c o ++
      runEvents c k bound (repetition + 1) outcomes

theorem repeatRuns_events {σ : Type} (w : Worker σ) (c : Configuration) (k : Calibration)
    (bound : Duration) (repetition left : Nat) (n : Count) (world : σ) :
    (repeatRuns w c k bound repetition left n world).1 =
        runEvents c k bound repetition (repeatRuns w c k bound repetition left n world).2.1 ∧
      Stopped left (repeatRuns w c k bound repetition left n world).2.1 := by
  induction left generalizing repetition n world with
  | zero => exact ⟨rfl, .none⟩
  | succ left ih =>
    rw [repeatRuns]
    dsimp only
    cases ho : (w.measure c k bound world).1 with
    | success x =>
      obtain ⟨hevents, hstopped⟩ := ih (repetition + 1)
        ⟨n.summary.countRun (.success x), n.progress.attempt⟩ (w.measure c k bound world).2
      simp only [Outcome.isSuccess, if_true, runEvents]
      exact ⟨by rw [← hevents], .success x hstopped⟩
    | failure code reason => exact ⟨by simp [Outcome.isSuccess, runEvents], .failed rfl left⟩
    | timeout b => exact ⟨by simp [Outcome.isSuccess, runEvents], .failed rfl left⟩

theorem stopped_of_repeatRuns {σ : Type} {w : Worker σ} {c : Configuration} {k : Calibration}
    {bound : Duration} {repetition left : Nat} {n n' : Count} {world world' : σ}
    {events : List Event} {outcomes : List Outcome}
    (h : repeatRuns w c k bound repetition left n world = (events, outcomes, n', world')) :
    Stopped left outcomes := by
  have hstop := (repeatRuns_events w c k bound repetition left n world).2
  rw [h] at hstop
  exact hstop

def rowOf (c : Configuration) (runs : UInt32) (scores : List Float) : Row :=
  ⟨c, Scores.mean scores, Scores.deviation scores, runs⟩

/-- Without a row, the last run alone has no score. -/
theorem Stopped.of_reduce_eq_error {c : Configuration} {runs : UInt32} {outcomes : List Outcome}
    {missing : Incomplete} (h : Stopped runs.toNat outcomes)
    (hrow : reduce c outcomes runs = .error missing) :
    ∃ scores : List Float, ∃ bad : Outcome, scores.length < runs.toNat ∧ bad.isSuccess = false ∧
      outcomes = scores.map .success ++ [bad] := by
  obtain ⟨scores, hl, rfl⟩ | hbad := h.scores
  · rw [reduce_scores c runs hl] at hrow
    cases hrow
  · exact hbad

theorem Stopped.of_reduce_eq_ok {c : Configuration} {runs : UInt32} {outcomes : List Outcome}
    {row : Row} (h : Stopped runs.toNat outcomes) (hrow : reduce c outcomes runs = .ok row) :
    ∃ scores : List Float, scores.length = runs.toNat ∧ outcomes = scores.map .success ∧
      row = rowOf c runs scores := by
  obtain ⟨scores, hl, rfl⟩ | ⟨scores, bad, hl, hb, rfl⟩ := h.scores
  · rw [reduce_scores c runs hl] at hrow
    cases hrow
    exact ⟨scores, hl, rfl, rfl⟩
  · have hbad : bad ∈ scores.map Outcome.success ++ [bad] := by simp
    obtain ⟨missing, herror⟩ := reduce_failed c runs hbad hb
    rw [herror] at hrow
    cases hrow

variable {σ : Type} {h : Host σ} {set : Setting} {c : Configuration} {s : Walk σ}

inductive Visit (h : Host σ) (set : Setting) (c : Configuration) (s : Walk σ) :
    List Event → Walk σ → Prop
  | done (hk : set.schema.keyOf (.ofConfiguration c set.runs) ∈ set.completed) {t : Walk σ}
      (hw : t.world = s.world) (hm : t.memory = s.memory)
      (hs : t.summary = { s.summary with resumed := s.summary.resumed + 1 })
      (hi : t.incomplete = s.incomplete) : Visit h set c s [] t
  | uncalibrated (hk : set.schema.keyOf (.ofConfiguration c set.runs) ∉ set.completed)
      {r : Calibrator.Resolution σ} (hr : s.memory.calibrator.resolve h.probe c.delay s.world = r)
      {e : Calibration.Error} (he : r.result = .error e) {t : Walk σ} (hw : t.world = r.world)
      (hm : t.memory = ⟨r.calibrator, s.memory.bounds⟩)
      (hs : t.summary = { s.summary with
        calibrationSkipped := s.summary.calibrationSkipped + 1 })
      (hi : t.incomplete = s.incomplete) :
      Visit h set c s (calibrationEvents c.delay r.probed r.result ++ [.noticed (.uncalibrated c e)]) t
  | incomplete (hk : set.schema.keyOf (.ofConfiguration c set.runs) ∉ set.completed)
      {r : Calibrator.Resolution σ} (hr : s.memory.calibrator.resolve h.probe c.delay s.world = r)
      {k : Calibration} (hc : r.result = .ok k) {n n' : Count} {outcomes : List Outcome} {world : σ}
      (hruns : repeatRuns h.worker c k (s.memory.bounds.bound c.ops c.delay).1 1 set.runs.toNat n
        r.world = (runEvents c k (s.memory.bounds.bound c.ops c.delay).1 1 outcomes, outcomes, n',
          world))
      {missing : Incomplete} (hrow : reduce c outcomes set.runs = .error missing) (p : Progress)
      {t : Walk σ} (hw : t.world = world)
      (hm : t.memory = ⟨r.calibrator, (s.memory.bounds.bound c.ops c.delay).2⟩)
      (hn : n.summary = s.summary)
      (hs : t.summary = { n'.summary with incomplete := n'.summary.incomplete + 1 })
      (hi : t.incomplete = s.incomplete ++ [missing]) :
      Visit h set c s (calibrationEvents c.delay r.probed r.result ++
        runEvents c k (s.memory.bounds.bound c.ops c.delay).1 1 outcomes ++
        [.noticed (.incomplete missing), .noticed (.progress c p)]) t
  | complete (hk : set.schema.keyOf (.ofConfiguration c set.runs) ∉ set.completed)
      {r : Calibrator.Resolution σ} (hr : s.memory.calibrator.resolve h.probe c.delay s.world = r)
      {k : Calibration} (hc : r.result = .ok k) {n n' : Count} {outcomes : List Outcome} {world : σ}
      (hruns : repeatRuns h.worker c k (s.memory.bounds.bound c.ops c.delay).1 1 set.runs.toNat n
        r.world = (runEvents c k (s.memory.bounds.bound c.ops c.delay).1 1 outcomes, outcomes, n',
          world))
      {row : Row} (hrow : reduce c outcomes set.runs = .ok row) (p : Progress) {t : Walk σ}
      (hwrite : Sink.writeRow h.sink set.schema row world = (.ok (), t.world))
      (hm : t.memory = ⟨r.calibrator, (s.memory.bounds.bound c.ops c.delay).2⟩)
      (hn : n.summary = s.summary)
      (hs : t.summary = { n'.summary with completed := n'.summary.completed + 1 })
      (hi : t.incomplete = s.incomplete) :
      Visit h set c s (calibrationEvents c.delay r.probed r.result ++
        runEvents c k (s.memory.bounds.bound c.ops c.delay).1 1 outcomes ++
        [.noticed (.rowWritten row), .appended row, .noticed (.rowFlushed row),
          .noticed (.progress c p)]) t

inductive FailedVisit (h : Host σ) (set : Setting) (c : Configuration) (s : Walk σ) :
    List Event → SinkError → Walk σ → Prop
  | write (hk : set.schema.keyOf (.ofConfiguration c set.runs) ∉ set.completed)
      {r : Calibrator.Resolution σ} (hr : s.memory.calibrator.resolve h.probe c.delay s.world = r)
      {k : Calibration} (hc : r.result = .ok k) {n n' : Count} {outcomes : List Outcome} {world : σ}
      (hruns : repeatRuns h.worker c k (s.memory.bounds.bound c.ops c.delay).1 1 set.runs.toNat n
        r.world = (runEvents c k (s.memory.bounds.bound c.ops c.delay).1 1 outcomes, outcomes, n',
          world))
      {row : Row} (hrow : reduce c outcomes set.runs = .ok row) {e : SinkError} {t : Walk σ}
      (hwrite : Sink.writeRow h.sink set.schema row world = (.error e, t.world))
      (hm : t.memory = ⟨r.calibrator, (s.memory.bounds.bound c.ops c.delay).2⟩) :
      FailedVisit h set c s (calibrationEvents c.delay r.probed r.result ++
        runEvents c k (s.memory.bounds.bound c.ops c.delay).1 1 outcomes ++
        [.noticed (.rowWritten row)]) e t

/-- A visit fails only when its row cannot be written. -/
theorem visit_cases (h : Host σ) (set : Setting) (c : Configuration) (s : Walk σ) :
    (∃ events t, visit h set c s = (events, .ok (), t) ∧ Visit h set c s events t) ∨
      ∃ events e t, visit h set c s = (events, .error e, t) ∧ FailedVisit h set c s events e t := by
  unfold visit
  by_cases hk : set.schema.keyOf (.ofConfiguration c set.runs) ∈ set.completed
  · rw [if_pos hk]
    exact .inl ⟨_, _, rfl, .done hk rfl rfl rfl rfl⟩
  · rw [if_neg hk]
    dsimp only
    generalize hr : s.memory.calibrator.resolve h.probe c.delay s.world = r
    cases hc : r.result with
    | error e =>
      refine .inl ⟨_, _, rfl, ?_⟩
      rw [← hc]
      exact .uncalibrated hk hr hc rfl rfl rfl rfl
    | ok k =>
      dsimp only
      have hruns := repeatRuns_events h.worker c k (s.memory.bounds.bound c.ops c.delay).1 1
        set.runs.toNat ⟨s.summary, s.progress⟩ r.world
      rcases hrep : repeatRuns h.worker c k (s.memory.bounds.bound c.ops c.delay).1 1
        set.runs.toNat ⟨s.summary, s.progress⟩ r.world with ⟨events, outcomes, n, world⟩
      rw [hrep] at hruns
      dsimp only at hruns ⊢
      obtain ⟨rfl, -⟩ := hruns
      unfold conclude
      cases hrow : reduce c outcomes set.runs with
      | error missing =>
        refine .inl ⟨_, _, rfl, ?_⟩
        rw [← hc]
        exact .incomplete hk hr hc hrep hrow _ rfl rfl rfl rfl rfl
      | ok row =>
        dsimp only
        rcases hwrite : Sink.writeRow h.sink set.schema row world with ⟨_ | ⟨⟨⟩⟩, world'⟩
        · refine .inr ⟨_, _, _, rfl, ?_⟩
          rw [← hc]
          exact .write hk hr hc hrep hrow hwrite rfl
        · refine .inl ⟨_, _, rfl, ?_⟩
          rw [← hc]
          exact .complete hk hr hc hrep hrow _ hwrite rfl rfl rfl rfl

theorem visit_of_eq_ok {events : List Event} {t : Walk σ} (hv : visit h set c s = (events, .ok (), t)) :
    Visit h set c s events t := by
  obtain ⟨events', t', hv', hvisit⟩ | ⟨_, _, _, hv', -⟩ := visit_cases h set c s
  · rw [hv] at hv'
    cases hv'
    exact hvisit
  · rw [hv] at hv'
    cases hv'

end Sweep

end CalibratedSweep
