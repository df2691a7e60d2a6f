import CalibratedSweep.Proofs.Decimal.Infinite
import CalibratedSweep.Proofs.Scores
import CalibratedSweep.Proofs.Supervision.Ending
import CalibratedSweep.Proofs.Sweep.Refusal

namespace CalibratedSweep

structure Row.SumsUp (row : Row) (scores : List Float) : Prop where
  eq : row = Sweep.rowOf row.configuration row.runs scores
  length : scores.length = row.runs.toNat
  valid : ∀ x ∈ scores, Scores.Valid x
  nonneg : 0.0 ≤ row.score ∧ 0.0 ≤ row.scoreError
  score : row.score.isFinite = true ↔ (Scores.sum scores).isFinite = true
  scoreError : row.scoreError.isFinite = true ↔ row.runs.toNat < 2 ∨
    (Scores.sum (scores.map (Scores.squaredDistance (Scores.mean scores)))).isFinite = true
  small : (∀ x ∈ scores, x ≤ 1e149) → row.score.isFinite = true ∧ row.scoreError.isFinite = true
  texts : ∀ x ∈ [row.score, row.scoreError],
    Decimal.scoreText x ≠ "NaN" ∧ (Decimal.scoreText x = "inf" ↔ x.isFinite = false)

theorem Sweep.rowOf_sumsUp (c : Configuration) {runs : UInt32} {scores : List Float}
    (hl : scores.length = runs.toNat) (hv : ∀ x ∈ scores, Scores.Valid x) :
    (rowOf c runs scores).SumsUp scores := by
  have hn : scores.length < 2 ^ 32 := by
    rw [hl]
    exact runs.toBitVec.isLt
  obtain ⟨hscore, hfinite⟩ := Scores.mean_nonneg hv hn
  obtain ⟨herror, hfinite'⟩ := Scores.deviation_nonneg hv hn
  refine ⟨rfl, hl, hv, ⟨hscore, herror⟩, by rw [rowOf, hfinite], ?_, fun hmax => ?_, ?_⟩
  · rw [rowOf, hfinite', hl]
  · obtain ⟨hsum, hsquares⟩ := Scores.isFinite_of_le hv hn hmax
    exact ⟨hfinite.trans hsum, hfinite'.mpr (.inr hsquares)⟩
  · intro x hx
    obtain rfl | rfl := List.mem_pair.mp hx
    · exact Decimal.scoreText_eq_inf_iff hscore
    · exact Decimal.scoreText_eq_inf_iff herror

namespace Sweep

variable {σ : Type}

/-- Each row among the events is that of scores which were measured for it one after the other. -/
def Supported (w : Worker σ) (events : List Event) : Prop :=
  ∀ row ∈ events.filterMap Event.row?, ∃ k bound scores,
    row = rowOf row.configuration row.runs scores ∧ scores.length = row.runs.toNat ∧
      (scores.map fun x => Call.mk row.configuration k bound (.success x)) <:+:
        events.filterMap Event.call? ∧
      ∀ x ∈ scores, ∃ world, (w.measure row.configuration k bound world).1 = .success x

section Supported

variable {w : Worker σ} {events later : List Event}

theorem supported_of_no_row (h : events.filterMap Event.row? = []) : Supported w events := by
  intro row hrow
  rw [h] at hrow
  cases hrow

theorem Supported.append (h : Supported w events) (h' : Supported w later) :
    Supported w (events ++ later) := by
  intro row hrow
  rw [List.filterMap_append, List.mem_append] at hrow
  rw [List.filterMap_append]
  obtain hrow | hrow := hrow
  · obtain ⟨k, bound, scores, heq, hl, hcalls, hmeasured⟩ := h row hrow
    exact ⟨k, bound, scores, heq, hl, hcalls.trans (List.prefix_append _ _).isInfix,
      hmeasured⟩
  · obtain ⟨k, bound, scores, heq, hl, hcalls, hmeasured⟩ := h' row hrow
    exact ⟨k, bound, scores, heq, hl, hcalls.trans (List.suffix_append _ _).isInfix, hmeasured⟩

end Supported

theorem measured_of_repeatRuns (w : Worker σ) (c : Configuration) (k : Calibration)
    (bound : Duration) (repetition left : Nat) (n : Count) (world : σ) :
    ∀ o ∈ (repeatRuns w c k bound repetition left n world).2.1,
      ∃ before, (w.measure c k bound before).1 = o := by
  induction left generalizing repetition n world with
  | zero => exact nofun
  | succ left ih =>
    intro o ho
    rw [repeatRuns] at ho
    dsimp only at ho
    split at ho
    · obtain rfl | ho := List.mem_cons.mp ho
      · exact ⟨world, rfl⟩
      · exact ih _ _ _ o ho
    · rw [List.mem_singleton.mp ho]
      exact ⟨world, rfl⟩

section Visits

variable (h : Host σ) (set : Setting)

theorem visit_supported (c : Configuration) (a : Walk σ) : Supported h.worker (visit h set c a).1 := by
  obtain ⟨events, t, hv, hvisit⟩ | ⟨events, e, t, hv, hfailed⟩ := visit_cases h set c a <;> rw [hv]
  · cases hvisit with
    | done hk hw hm hs hi => exact supported_of_no_row rfl
    | uncalibrated hk hr he hw hm hs hi =>
      refine supported_of_no_row ?_
      rw [List.filterMap_append, (call?_calibrationEvents _ _ _).2]
      rfl
    | incomplete hk hr hc hruns hrow p hw hm hn hs hi =>
      exact supported_of_no_row (call?_block _ _ _ _ _ _ _).2
    | @complete hk r hr k hc n n' outcomes world hruns row hrow p t hwrite hm hn hs hi =>
      obtain ⟨scores, hl, rfl, rfl⟩ := (stopped_of_repeatRuns hruns).of_reduce_eq_ok hrow
      obtain ⟨hcalls, hrows⟩ := call?_block c r.probed r.result k
        (a.memory.bounds.bound c.ops c.delay).1 (scores.map .success)
        [.noticed (.rowWritten (rowOf c set.runs scores)), .appended (rowOf c set.runs scores),
          .noticed (.rowFlushed (rowOf c set.runs scores)), .noticed (.progress c p)]
      have hmeasured := measured_of_repeatRuns h.worker c k (a.memory.bounds.bound c.ops c.delay).1 1
        set.runs.toNat n r.world
      rw [hruns] at hmeasured
      intro row hrow
      rw [hrows] at hrow
      obtain rfl := List.mem_singleton.mp hrow
      refine ⟨k, _, scores, rfl, hl, ?_, fun x hx => hmeasured _ (List.mem_map_of_mem hx)⟩
      rw [hcalls, List.map_map]
      exact (List.prefix_append _ _).isInfix
  · cases hfailed with
    | write hk hr hc hruns hrow hwrite hm =>
      exact supported_of_no_row (call?_block _ _ _ _ _ _ _).2

theorem visitAll_supported (cs : List Configuration) (a : Walk σ) :
    Supported h.worker (visitAll h set cs a).1 := by
  induction cs generalizing a with
  | nil => exact supported_of_no_row rfl
  | cons c cs ih =>
    have hfirst := visit_supported h set c a
    rw [visitAll]
    rcases hv : visit h set c a with ⟨events, _ | ⟨⟨⟩⟩, t⟩ <;> rw [hv] at hfirst
    · exact hfirst
    · exact hfirst.append (ih t)

theorem sweepOpened_supported (m : Matrix) (memory : Memory) (world : σ) :
    Supported h.worker (sweepOpened h m memory set world).events := by
  have hall := visitAll_supported h set m.plan.configurations (begun m memory world)
  have hstarted : Supported h.worker [.noticed .sweepStarted] := supported_of_no_row rfl
  have hfinished : Supported h.worker [.noticed .sweepFinished] := supported_of_no_row rfl
  unfold begun at hall
  dsimp only [sweepOpened]
  split <;> rename_i hv <;> rw [hv] at hall
  · exact hstarted.append hall
  · exact (hstarted.append hall).append hfinished

theorem run_supported (m : Matrix) (resume : Bool) (memory : Memory) (world : σ) :
    Supported h.worker (run h m resume memory world).events := by
  have hchecks : Supported h.worker (validateQueues h.worker m.queues world).1 :=
    supported_of_no_row (call?_validateQueues h.worker m.queues world).2
  have hbegins := run_begins h m resume memory world
  generalize run h m resume memory world = r at hbegins
  cases hbegins with
  | rejected hq => exact hchecks
  | unreadable hq hc => exact hchecks
  | unopened hq hc ho => exact hchecks
  | opened hq hc ho => exact hchecks.append (sweepOpened_supported h _ m memory _)

end Visits

theorem valid_of_measure {p : WorkerProgram} {launch : Launcher σ} {c : Configuration}
    {k : Calibration} {bound : Duration} {world : σ} {x : Float}
    (h : ((p.worker launch).measure c k bound world).1 = .success x) : Scores.Valid x := by
  obtain ⟨child, -, hshows⟩ := ((p.outcome_reads bound _).success x).mp h
  obtain ⟨-, -, -, -, -, -, -, -, -, hfinite, hnonneg⟩ := hshows
  exact ⟨hfinite, hnonneg⟩

/--
Whatever the programs print, a row sums up as many valid scores as it has runs, which were measured
for it one after the other. No score and no error is negative or a NaN. Which of them are infinite
depends on the sums alone, and none is for scores up to 1e149.
-/
theorem rows_sum_up (p : WorkerProgram) (launch : Launcher σ) (probe : Probe σ) (f : SinkFile σ)
    (m : Matrix) (resume : Bool) (memory : Memory) (world : σ) :
    let events := (run ⟨p.worker launch, probe, f⟩ m resume memory world).events
    ∀ row ∈ events.filterMap Event.row?, ∃ k bound scores, row.SumsUp scores ∧
      (scores.map fun x => Call.mk row.configuration k bound (.success x)) <:+:
        events.filterMap Event.call? := by
  intro events row hrow
  obtain ⟨k, bound, scores, heq, hl, hcalls, hmeasured⟩ :=
    run_supported ⟨p.worker launch, probe, f⟩ m resume memory world row hrow
  refine ⟨k, bound, scores, ?_, hcalls⟩
  rw [heq]
  refine rowOf_sumsUp row.configuration hl fun x hx => ?_
  obtain ⟨before, hbefore⟩ := hmeasured x hx
  exact valid_of_measure hbefore

def printing {σ : Type} (text : String) : Launcher σ := fun _ bound world =>
  (.ok (.endingAt bound ⟨0⟩ (.exited 0) (Bytes.ofText text) []), world)

def sheetFile : SinkFile Bytes where
  view := fun content => .ok (.file content)
  start := fun mode content =>
    match mode with
    | .truncate => (.ok (), [])
    | .append => (.ok (), content)
  extend := fun bytes content => (.ok (), content ++ bytes)

def printed (text : String) : Ending Bytes :=
  let p : WorkerProgram := ⟨"./worker", none, none, ⟨1000000000⟩, none⟩
  run ⟨p.worker (printing text), missingProbe, sheetFile⟩ ⟨["A"], [⟨1, 1⟩], [64], [0], 1000, 2⟩ false
    (.fresh .standard .standard) []

theorem rows_sum_up_printed :
    let events := (printed "1.5\n").events
    ∃ row ∈ events.filterMap Event.row?,
      (Decimal.scoreText row.score, Decimal.scoreText row.scoreError) = ("1.5", "0") ∧
        ∃ k bound scores, row.SumsUp scores ∧
          (scores.map fun x => Call.mk row.configuration k bound (.success x)) <:+:
            events.filterMap Event.call? := by
  intro events
  have htexts : (events.filterMap Event.row?).map (fun row =>
      (Decimal.scoreText row.score, Decimal.scoreText row.scoreError)) = [("1.5", "0")] := by
    decide +kernel
  obtain ⟨row, hrow, htext⟩ := List.mem_map.mp (htexts ▸ List.mem_singleton_self _)
  exact ⟨row, hrow, htext, rows_sum_up _ (printing "1.5\n") missingProbe sheetFile _ false _ [] row
    hrow⟩

theorem infinite_scores_written :
    ((printed "1e308\n").events.filterMap Event.call?).map (fun call =>
        call.outcome.score?.map Float.isFinite) = [some true, some true] ∧
      ((printed "1e308\n").events.filterMap Event.row?).map (fun row =>
        (row.score.isFinite, row.scoreError.isFinite)) = [(false, false)] ∧
      (printed "1e308\n").world = Bytes.ofText
        "Queue,Producers,Consumers,Size,Items,Runs,Score,Score Error\nA,1,1,64,1000,2,inf,inf\n" := by
  decide +kernel

end Sweep

end CalibratedSweep
