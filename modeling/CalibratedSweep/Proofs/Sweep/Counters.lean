import CalibratedSweep.Proofs.Sweep.Calls
import CalibratedSweep.Proofs.Sweep.Fate
import Mathlib.Algebra.Ring.Nat

namespace CalibratedSweep

def Call.isFailed (call : Call) : Bool := call.outcome.isFailure

def Call.isTimedOut (call : Call) : Bool := call.outcome.isTimeout

namespace Sweep

open Workspace (blank sinkFile vacant_blank view)

structure Tally (a : Summary) (fates : List Fate) (b : Summary) : Prop where
  planned : b.planned = a.planned
  completed : b.completed = a.completed + (fates.filterMap Fate.row?).length
  incomplete : b.incomplete = a.incomplete + (fates.filterMap Fate.missing?).length
  resumed : b.resumed = a.resumed + fates.countP Fate.isResumed
  calibrationSkipped :
    b.calibrationSkipped = a.calibrationSkipped + fates.countP Fate.isUncalibrated
  invocations : b.invocations = a.invocations + (fates.flatMap Fate.calls).length
  failedRepetitions :
    b.failedRepetitions = a.failedRepetitions + (fates.flatMap Fate.calls).countP Call.isFailed
  timeouts : b.timeouts = a.timeouts + (fates.flatMap Fate.calls).countP Call.isTimedOut

theorem Tally.nil (a : Summary) : Tally a [] a := ⟨rfl, rfl, rfl, rfl, rfl, rfl, rfl, rfl⟩

theorem Tally.append {a b c : Summary} {xs ys : List Fate} (h : Tally a xs b) (h' : Tally b ys c) :
    Tally a (xs ++ ys) c where
  planned := h'.planned.trans h.planned
  completed := by
    rw [h'.completed, h.completed, List.filterMap_append, List.length_append, Nat.add_assoc]
  incomplete := by
    rw [h'.incomplete, h.incomplete, List.filterMap_append, List.length_append, Nat.add_assoc]
  resumed := by rw [h'.resumed, h.resumed, List.countP_append, Nat.add_assoc]
  calibrationSkipped := by
    rw [h'.calibrationSkipped, h.calibrationSkipped, List.countP_append, Nat.add_assoc]
  invocations := by
    rw [h'.invocations, h.invocations, List.flatMap_append, List.length_append, Nat.add_assoc]
  failedRepetitions := by
    rw [h'.failedRepetitions, h.failedRepetitions, List.flatMap_append, List.countP_append,
      Nat.add_assoc]
  timeouts := by
    rw [h'.timeouts, h.timeouts, List.flatMap_append, List.countP_append, Nat.add_assoc]

theorem foldl_countRun (outcomes : List Outcome) (n : Summary) :
    outcomes.foldl Summary.countRun n = { n with
      invocations := n.invocations + outcomes.length
      failedRepetitions := n.failedRepetitions + outcomes.countP Outcome.isFailure
      timeouts := n.timeouts + outcomes.countP Outcome.isTimeout } := by
  induction outcomes generalizing n with
  | nil => rfl
  | cons o outcomes ih =>
    rw [List.foldl_cons, ih]
    simp only [Summary.countRun, List.length_cons, List.countP_cons, Summary.mk.injEq, true_and]
    omega

theorem repeatRuns_summary {σ : Type} (w : Worker σ) (c : Configuration) (k : Calibration)
    (bound : Duration) (repetition left : Nat) (n : Count) (world : σ) :
    (repeatRuns w c k bound repetition left n world).2.2.1.summary =
      (repeatRuns w c k bound repetition left n world).2.1.foldl Summary.countRun n.summary := by
  induction left generalizing repetition n world with
  | zero => rfl
  | succ left ih =>
    rw [repeatRuns]
    dsimp only
    split
    · exact ih _ _ _
    · rfl

theorem summary_of_repeatRuns {σ : Type} {w : Worker σ} {c : Configuration} {k : Calibration}
    {bound : Duration} {repetition left : Nat} {n n' : Count} {world world' : σ}
    {events : List Event} {outcomes : List Outcome}
    (h : repeatRuns w c k bound repetition left n world = (events, outcomes, n', world')) :
    n'.summary = outcomes.foldl Summary.countRun n.summary := by
  have hsum := repeatRuns_summary w c k bound repetition left n world
  rw [h] at hsum
  exact hsum

theorem countP_calls (c : Configuration) (k : Calibration) (bound : Duration)
    (outcomes : List Outcome) :
    (outcomes.map (Call.mk c k bound)).countP Call.isFailed = outcomes.countP Outcome.isFailure ∧
      (outcomes.map (Call.mk c k bound)).countP Call.isTimedOut =
        outcomes.countP Outcome.isTimeout := by
  constructor <;> rw [List.countP_map] <;> rfl

section Runs

variable {n r : Summary} {outcomes : List Outcome} (hr : r = outcomes.foldl Summary.countRun n)
  (c : Configuration) (k : Calibration) (bound : Duration)
include hr

theorem tally_incomplete (missing : Incomplete) :
    Tally n [.incomplete (outcomes.map (.mk c k bound)) missing]
      { r with incomplete := r.incomplete + 1 } := by
  obtain ⟨hfailed, htimeouts⟩ := countP_calls c k bound outcomes
  rw [hr, foldl_countRun]
  constructor <;> simp [Fate.calls, Fate.row?, Fate.missing?, Fate.isResumed, Fate.isUncalibrated,
    hfailed, htimeouts]

theorem tally_complete (row : Row) :
    Tally n [.complete (outcomes.map (.mk c k bound)) row]
      { r with completed := r.completed + 1 } := by
  obtain ⟨hfailed, htimeouts⟩ := countP_calls c k bound outcomes
  rw [hr, foldl_countRun]
  constructor <;> simp [Fate.calls, Fate.row?, Fate.missing?, Fate.isResumed, Fate.isUncalibrated,
    hfailed, htimeouts]

end Runs

variable {σ : Type} {h : Host σ} {set : Setting} {known : UInt64 → Option CalibrationResult}
  {c : Configuration} {cs : List Configuration} {a b : Walk σ}

theorem Visit.fate {events : List Event} (hv : Visit h set c a events b) {l : Calibrator}
    (hg : b.memory.calibrator.Grows l) :
    ∃ fate, Fate.Of set l.known? c fate ∧ fate.Told l.known? c events ∧
      b.incomplete = a.incomplete ++ fate.missing?.toList ∧ Tally a.summary [fate] b.summary := by
  -- What this visit resolves stays known, as calibrators only grow.
  have hknown := (a.memory.calibrator.resolve_grows h.probe c.delay a.world).2
  have hprobed (q : Calibration.Request)
      (hq : (a.memory.calibrator.resolve h.probe c.delay a.world).probed = some q) :=
    Calibrator.delay_of_probed hq
  cases hv with
  | done hk hw hm hs hi =>
    refine ⟨_, .resumed hk, .resumed, ?_, ?_⟩
    · rw [hi]; exact (List.append_nil _).symm
    · rw [hs]; constructor <;> rfl
  | @uncalibrated hk r hr e he t hw hm hs hi =>
    rw [hr] at hprobed
    rw [hr, he] at hknown
    rw [hm] at hg
    have hlast := hg.2 _ _ hknown
    rw [he]
    refine ⟨_, .uncalibrated hk hlast, .uncalibrated hlast hprobed, ?_, ?_⟩
    · rw [hi]; exact (List.append_nil _).symm
    · rw [hs]; constructor <;> rfl
  | @incomplete hk r hr k hc n n' outcomes world hruns missing hrow p t hw hm hn hs hi =>
    have htally := tally_incomplete (summary_of_repeatRuns hruns) c k
      (a.memory.bounds.bound c.ops c.delay).1 missing
    rw [← hs, hn] at htally
    rw [hr] at hprobed
    rw [hr, hc] at hknown
    rw [hm] at hg
    have hlast := hg.2 _ _ hknown
    have hconfiguration := (Incomplete.counts_of_reduce hrow).1
    rw [hc]
    obtain ⟨scores, bad, hl, hb, rfl⟩ := (stopped_of_repeatRuns hruns).of_reduce_eq_error hrow
    refine ⟨_, .incomplete hk hlast _ hl hb hrow, ?_, hi, htally⟩
    exact .intro (fun q hq => ⟨hprobed q hq, hlast⟩) rfl
      (.incomplete _ hconfiguration p)
  | @complete hk r hr k hc n n' outcomes world hruns row hrow p t hwrite hm hn hs hi =>
    have htally := tally_complete (summary_of_repeatRuns hruns) c k
      (a.memory.bounds.bound c.ops c.delay).1 row
    rw [← hs, hn] at htally
    rw [hr] at hprobed
    rw [hr, hc] at hknown
    rw [hm] at hg
    have hlast := hg.2 _ _ hknown
    rw [hc]
    obtain ⟨scores, hl, rfl, rfl⟩ := (stopped_of_repeatRuns hruns).of_reduce_eq_ok hrow
    have hconfiguration : (rowOf c set.runs scores).configuration = c := rfl
    refine ⟨_, .complete hk hlast _ hl, ?_, hi.trans (List.append_nil _).symm, htally⟩
    exact .intro (fun q hq => ⟨hprobed q hq, hlast⟩) rfl
      (.complete _ hconfiguration p)

theorem Visits.story {blocks : List (List Event)} (hv : Visits h set cs a blocks b) :
    ∃ fates, List.Forall₂ (Fate.Of set b.memory.calibrator.known?) cs fates ∧
      Story b.memory.calibrator.known? cs fates blocks.flatten ∧
      b.incomplete = a.incomplete ++ fates.filterMap Fate.missing? ∧
      Tally a.summary fates b.summary := by
  induction hv with
  | nil a => exact ⟨[], .nil, .nil, (List.append_nil _).symm, .nil _⟩
  | @cons c rest a b d block blocks hv hs ih =>
    obtain ⟨fate, hfate, htold, hmissing, htally⟩ := hv.fate hs.grows
    obtain ⟨fates, hfates, hstory, hmissing', htally'⟩ := ih
    refine ⟨fate :: fates, .cons hfate hfates, .cons htold hstory, ?_, htally.append htally'⟩
    rw [hmissing', hmissing, List.append_assoc]
    cases fate <;> rfl

theorem Visits.fates {blocks : List (List Event)} (hv : Visits h set cs a blocks b) :
    ∃ fates, List.Forall₂ (Fate.Of set b.memory.calibrator.known?) cs fates ∧
      blocks.flatten.filterMap Event.call? = fates.flatMap Fate.calls ∧
      blocks.flatten.filterMap Event.row? = fates.filterMap Fate.row? ∧
      b.incomplete = a.incomplete ++ fates.filterMap Fate.missing? ∧
      Tally a.summary fates b.summary := by
  obtain ⟨fates, hfates, hstory, hmissing, htally⟩ := hv.story
  exact ⟨fates, hfates, hstory.calls, hstory.rows, hmissing, htally⟩

theorem length_fates (fates : List Fate) :
    fates.length = (fates.filterMap Fate.row?).length + (fates.filterMap Fate.missing?).length +
      fates.countP Fate.isResumed + fates.countP Fate.isUncalibrated := by
  induction fates with
  | nil => rfl
  | cons fate fates ih =>
    cases fate <;> simp only [List.length_cons, List.filterMap_cons, List.countP_cons, Fate.row?,
      Fate.missing?, Fate.isResumed, Fate.isUncalibrated, ih, if_true, Bool.false_eq_true, if_false] <;>
      omega

structure Agree (runs : UInt32) (cs : List Configuration) (fates : List Fate) : Prop where
  order : ((fates.filterMap Fate.missing?).map Incomplete.configuration).Sublist cs
  attempts : (fates.flatMap Fate.calls).length = (fates.filterMap Fate.row?).length * runs.toNat +
    ((fates.filterMap Fate.missing?).map Incomplete.attempts).sum
  failures : (fates.flatMap Fate.calls).countP Call.isFailed =
    ((fates.filterMap Fate.missing?).map Incomplete.failures).sum
  timeouts : (fates.flatMap Fate.calls).countP Call.isTimedOut =
    ((fates.filterMap Fate.missing?).map Incomplete.timeouts).sum
  once : ∀ i ∈ fates.filterMap Fate.missing?, i.failures + i.timeouts = 1

theorem Agree.append {runs : UInt32} {cs ds : List Configuration} {xs ys : List Fate}
    (h : Agree runs cs xs) (h' : Agree runs ds ys) : Agree runs (cs ++ ds) (xs ++ ys) where
  order := by
    rw [List.filterMap_append, List.map_append]
    exact h.order.append h'.order
  attempts := by
    rw [List.flatMap_append, List.filterMap_append, List.filterMap_append, List.length_append,
      List.length_append, List.map_append, List.sum_append, h.attempts, h'.attempts, Nat.add_mul]
    omega
  failures := by
    rw [List.flatMap_append, List.filterMap_append, List.countP_append, List.map_append,
      List.sum_append, h.failures, h'.failures]
  timeouts := by
    rw [List.flatMap_append, List.filterMap_append, List.countP_append, List.map_append,
      List.sum_append, h.timeouts, h'.timeouts]
  once i hi := by
    rw [List.filterMap_append, List.mem_append] at hi
    exact hi.elim (h.once i) (h'.once i)

theorem Agree.empty (runs : UInt32) (cs : List Configuration) {fates : List Fate}
    (hcalls : fates.flatMap Fate.calls = []) (hrow : fates.filterMap Fate.row? = [])
    (hmissing : fates.filterMap Fate.missing? = []) : Agree runs cs fates := by
  constructor <;> simp [hcalls, hrow, hmissing]

theorem Agree.incomplete (runs : UInt32) {calls : List Call} {i : Incomplete}
    (hc : i.configuration = c) (ha : i.attempts = calls.length)
    (hf : i.failures = calls.countP Call.isFailed) (ht : i.timeouts = calls.countP Call.isTimedOut)
    (ho : i.failures + i.timeouts = 1) : Agree runs [c] [.incomplete calls i] := by
  constructor <;> simp [List.filterMap_cons, Fate.calls, Fate.row?, Fate.missing?, hc, ha, ← hf,
    ← ht, ho]

theorem Agree.complete {runs : UInt32} {calls : List Call} (c : Configuration) (row : Row)
    (hl : calls.length = runs.toNat) (hf : calls.countP Call.isFailed = 0)
    (ht : calls.countP Call.isTimedOut = 0) : Agree runs [c] [.complete calls row] := by
  constructor <;> simp [List.filterMap_cons, Fate.calls, Fate.row?, Fate.missing?, hl, hf, ht]

theorem Fate.Of.agree {fate : Fate} (hf : Fate.Of set known c fate) : Agree set.runs [c] [fate] := by
  cases hf with
  | resumed hk => exact .empty _ _ rfl rfl rfl
  | uncalibrated hk hc => exact .empty _ _ rfl rfl rfl
  | @incomplete hk k hc bound scores bad hl hb missing hrow =>
    obtain ⟨hconfiguration, hattempts, hsuccesses, hfailures, htimeouts⟩ :=
      Incomplete.counts_of_reduce hrow
    have hscores : (scores.map Outcome.success ++ [bad]).countP Outcome.isSuccess =
        scores.length := by
      rw [List.countP_append, (countP_scores scores).1, List.countP_singleton, hb]
      rfl
    -- All outcomes but `bad` are scores, so one attempt is left for failures and timeouts together.
    have honce : missing.failures + missing.timeouts = 1 := by
      rw [Incomplete.attempts, hsuccesses, hscores, List.length_append, List.length_map,
        List.length_singleton] at hattempts
      omega
    obtain ⟨hfailed, htimedOut⟩ := countP_calls c k bound (scores.map .success ++ [bad])
    exact .incomplete _ hconfiguration (hattempts.trans (List.length_map _).symm)
      (hfailures.trans hfailed.symm) (htimeouts.trans htimedOut.symm) honce
  | @complete hk k hc bound scores hl =>
    obtain ⟨hfailed, htimedOut⟩ := countP_calls c k bound (scores.map .success)
    obtain ⟨-, hf, ht⟩ := countP_scores scores
    refine .complete c _ ?_ (hfailed.trans hf) (htimedOut.trans ht)
    rw [List.length_map, List.length_map, hl]

theorem agree_of_fates {fates : List Fate} (hf : List.Forall₂ (Fate.Of set known) cs fates) :
    Agree set.runs cs fates := by
  induction hf with
  | nil => exact .empty _ _ rfl rfl rfl
  | cons hf _ ih => exact hf.agree.append ih

structure Balanced (m : Matrix) (events : List Event) (f : Findings) : Prop where
  planned : f.summary.planned = m.plan.configurations.length
  visited : f.summary.planned = f.summary.completed + f.summary.incomplete + f.summary.resumed +
    f.summary.calibrationSkipped
  rows : f.summary.completed = (events.filterMap Event.row?).length
  listed : f.summary.incomplete = f.incomplete.length
  order : (f.incomplete.map Incomplete.configuration).Sublist m.plan.configurations
  calls : f.summary.invocations = (events.filterMap Event.call?).length
  attempts : f.summary.invocations =
    f.summary.completed * m.runs.toNat + (f.incomplete.map Incomplete.attempts).sum
  failures : f.summary.failedRepetitions = (f.incomplete.map Incomplete.failures).sum
  timeouts : f.summary.timeouts = (f.incomplete.map Incomplete.timeouts).sum
  once : ∀ i ∈ f.incomplete, i.failures + i.timeouts = 1
  stopped : f.summary.failedRepetitions + f.summary.timeouts = f.summary.incomplete

theorem sum_failures_timeouts {missing : List Incomplete}
    (h : ∀ i ∈ missing, i.failures + i.timeouts = 1) :
    (missing.map Incomplete.failures).sum + (missing.map Incomplete.timeouts).sum =
      missing.length := by
  induction missing with
  | nil => rfl
  | cons i missing ih =>
    have hi := h i List.mem_cons_self
    have hrest := ih fun j hj => h j (List.mem_cons_of_mem i hj)
    rw [List.map_cons, List.map_cons, List.sum_cons, List.sum_cons, List.length_cons]
    omega

theorem balanced_of_fates {m : Matrix} {s : Schema} {completed : List RowKey}
    {events : List Event} {fates : List Fate} {f : Findings}
    (hf : List.Forall₂ (Fate.Of ⟨s, m.runs, completed⟩ known) m.plan.configurations fates)
    (hcalls : events.filterMap Event.call? = fates.flatMap Fate.calls)
    (hrows : events.filterMap Event.row? = fates.filterMap Fate.row?)
    (hmissing : f.incomplete = fates.filterMap Fate.missing?)
    (ht : Tally (.start m.plan.configurations.length) fates f.summary) : Balanced m events f := by
  have hagree := agree_of_fates hf
  have hlength := length_fates fates
  rw [← hf.length_eq] at hlength
  have hplanned : f.summary.planned = m.plan.configurations.length := ht.planned
  have hcompleted := ht.completed.trans (Nat.zero_add _)
  have hincomplete := ht.incomplete.trans (Nat.zero_add _)
  have hresumed := ht.resumed.trans (Nat.zero_add _)
  have hskipped := ht.calibrationSkipped.trans (Nat.zero_add _)
  have hinvocations := ht.invocations.trans (Nat.zero_add _)
  have hfailed := (ht.failedRepetitions.trans (Nat.zero_add _)).trans hagree.failures
  have htimeouts := (ht.timeouts.trans (Nat.zero_add _)).trans hagree.timeouts
  exact {
    planned := hplanned
    visited := by rw [hplanned, hcompleted, hincomplete, hresumed, hskipped, hlength]
    rows := by rw [hrows, hcompleted]
    listed := by rw [hmissing, hincomplete]
    order := by rw [hmissing]; exact hagree.order
    calls := by rw [hcalls, hinvocations]
    attempts := by rw [hinvocations, hcompleted, hmissing]; exact hagree.attempts
    failures := by rw [hmissing]; exact hfailed
    timeouts := by rw [hmissing]; exact htimeouts
    once := by rw [hmissing]; exact hagree.once
    stopped := by
      rw [hfailed, htimeouts, hincomplete]
      exact sum_failures_timeouts hagree.once }

variable {m : Matrix} {resume : Bool} {memory : Memory} {world : σ}

/--
The counters of a sweep that ends well balance, whatever its worker, probe and sink are: the events
are what happened, and each configuration has the calls, the row and the entry of its fate. Where
only the sink changes the result file, that file is what it was when it was opened, with as many
records behind it as there are completed configurations.
-/
theorem run_balanced {findings : Findings}
    (hok : (run h m resume memory world).result = .ok findings) :
    let r := run h m resume memory world
    let s := layout m memory
    ∃ completed opened fates,
      completedRows h s resume (checked h m world) = .ok completed ∧
      openSink h s resume (checked h m world) = (.ok (), opened) ∧
      Happened h s resume r.events ⟨world, memory.calibrator⟩ ⟨r.world, r.memory.calibrator⟩ ∧
      List.Forall₂ (Fate.Of ⟨s, m.runs, completed⟩ r.memory.calibrator.known?)
        m.plan.configurations fates ∧
      r.events.filterMap Event.call? = fates.flatMap Fate.calls ∧
      r.events.filterMap Event.row? = fates.filterMap Fate.row? ∧
      findings.incomplete = fates.filterMap Fate.missing? ∧
      Tally (.start m.plan.configurations.length) fates findings.summary ∧
      Balanced m r.events findings ∧
      ∃ added, added = (r.events.filterMap Event.row?).flatMap (Sink.rowLine s) ∧
        Sink.Adds s (r.events.filterMap Event.row?) added ∧
        (Csv.Scan.start.run added).length = findings.summary.completed ∧
        ∀ Has content, Tracks h Has → Has content opened → Has (content ++ added) r.world ∧
          (content ≠ [] → Sink.Terminated content → (Csv.records (content ++ added)).length =
            (Csv.records content).length + findings.summary.completed) := by
  dsimp only
  have hhappened := run_happened hok
  obtain ⟨completed, opened, blocks, b, hq, hc, ho, hv, hrun⟩ := ending_of_eq_ok hok
  obtain ⟨fates, hfates, hcalls, hrows, hmissing, htally⟩ := hv.fates
  obtain ⟨hcalls', hrows'⟩ := call?_run h.worker m.queues world blocks.flatten
  rw [hrun] at hok hhappened ⊢
  cases hok
  dsimp only at hhappened hcalls' hrows' ⊢
  generalize (validateQueues h.worker m.queues world).1 ++
    (.noticed .sweepStarted :: blocks.flatten ++ [.noticed .sweepFinished]) = events at *
  have hall := hcalls'.trans hcalls
  have hall' := hrows'.trans hrows
  have hbalanced : Balanced m events
      ⟨b.summary, b.incomplete, b.memory.calibrator.entries, layout m memory⟩ :=
    balanced_of_fates hfates hall hall' hmissing htally
  have hadds := Sink.adds_rowLines (layout m memory) (events.filterMap Event.row?)
  refine ⟨completed, opened, fates, hc, ho, hhappened, hfates, hall, hall', hmissing,
    htally, hbalanced, _, rfl, hadds, ?_, fun Has content ht hopened => ⟨?_, fun hne hend => ?_⟩⟩
  · rw [hadds.length_alone, hbalanced.rows]
  · rw [hrows']
    exact (hv.happened resume).tracks ht hv.unopened hopened
  · rw [hadds.length_behind hne hend, hbalanced.rows]

def flaky : Worker Unit where
  validate _ world := (.ok (), world)
  measure c _ _ world := (if c.queue = "A" then .success 1 else .failure (some 1) "refused", world)

theorem run_balanced_blank :
    let m : Matrix := ⟨["A", "B"], [⟨1, 1⟩], [64], [0], 1000, 2⟩
    let r := run (.apart flaky silent (sinkFile "out.csv")) m true (.fresh .standard .standard)
      (blank, ())
    ∃ findings content, r.result = .ok findings ∧ Balanced m r.events findings ∧
      view "out.csv" r.world.1 = .ok (.file content) ∧
      (Csv.records content).length = 1 + findings.summary.completed := by
  intro m r
  have hlayout : layout m (.fresh .standard .standard) = .withoutDelay := by decide
  have hc : Sink.completed (sinkFile "out.csv") .withoutDelay blank = .ok [] :=
    Sink.completed_vacant vacant_blank
  obtain ⟨t, ht, hh⟩ := Sink.append_vacant vacant_blank .withoutDelay
  have hok : ∃ findings, r.result = .ok findings := run_ok rfl hc ht
  obtain ⟨findings, hok⟩ := hok
  obtain ⟨completed, opened, fates, -, ho, -, -, -, -, -, -, hbalanced, added, -, -, -, hfile⟩ :=
    run_balanced hok
  rw [hlayout, openSink_apart, checked_apart] at ho
  have hopened : opened.1 = t := by
    rw [← congrArg (fun r => r.2.1) ho]
    exact congrArg Prod.snd ht
  obtain ⟨hview, hcount⟩ := hfile _ _ (tracks_apart flaky silent "out.csv") (hopened ▸ hh)
  have hheader : (Csv.records (Sink.headerLine .withoutDelay)).length = 1 := by decide +kernel
  have hcount := hcount (Sink.headerLine_ne_nil _) (Sink.terminated_headerLine .withoutDelay)
  rw [hheader] at hcount
  exact ⟨findings, _, hok, hbalanced, hview.view, hcount⟩

end Sweep

end CalibratedSweep
