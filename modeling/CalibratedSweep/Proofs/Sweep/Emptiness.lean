import CalibratedSweep.Proofs.Sweep.Identity

namespace CalibratedSweep

structure Matrix.Chosen (m : Matrix) (s : SweepFile.MatrixSection) (keep : String → Bool) : Prop where
  queues : ∀ q ∈ m.queues, q ∈ s.queues ∧ keep q = true
  queues_nodup : m.queues.Nodup
  threadPairs_nodup : m.threadPairs.Nodup
  two_sided : ∀ p ∈ m.threadPairs, p.producers ≠ 0 ∧ p.consumers ≠ 0
  repeated : m.runs ≠ 0

namespace Matrix

variable {m : Matrix}

theorem plan_eq_nil_iff : m.plan.configurations = [] ↔
    m.queues = [] ∨ m.threadPairs = [] ∨ m.sizes = [] ∨ m.delays = [] := by
  refine ⟨fun hplan => ?_, plan_eq_nil⟩
  by_contra! hne
  obtain ⟨hq, ht, hs, hd⟩ := hne
  obtain ⟨q, hq⟩ := List.exists_mem_of_ne_nil _ hq
  obtain ⟨t, ht⟩ := List.exists_mem_of_ne_nil _ ht
  obtain ⟨n, hn⟩ := List.exists_mem_of_ne_nil _ hs
  obtain ⟨d, hd⟩ := List.exists_mem_of_ne_nil _ hd
  have hmem : ⟨q, t, n, m.ops, d⟩ ∈ m.plan.configurations := mem_plan.mpr ⟨hq, ht, hn, hd, rfl⟩
  exact List.ne_nil_of_mem hmem hplan

theorem one_le_totalRuns_iff (hruns : m.runs ≠ 0)
    (hfit : m.plan.configurations.length * m.runs.toNat < 2 ^ 64) :
    1 ≤ m.plan.totalRuns ↔ m.plan.configurations ≠ [] := by
  have hne : m.runs.toNat ≠ 0 := fun h => hruns (UInt32.toNat_inj.mp h)
  have htotal : m.plan.totalRuns.toNat = m.plan.configurations.length * m.runs.toNat := by
    rw [Plan.toNat_totalRuns]
    exact Nat.mod_eq_of_lt hfit
  rw [UInt64.le_iff_toNat_le, htotal, UInt64.toNat_one, Nat.one_le_iff_ne_zero, Nat.mul_ne_zero_iff,
    Ne, List.length_eq_zero_iff]
  exact and_iff_left hne

end Matrix

namespace Sweep

open Workspace (view)

section Empty

variable {σ : Type} {h : Host σ} {m : Matrix} {resume : Bool} {memory : Memory} {world opened : σ}
  {completed : List RowKey}

theorem run_of_empty_plan (hp : m.plan.configurations = [])
    (hq : (validateQueues h.worker m.queues world).2.1 = [])
    (hc : completedRows h (layout m memory) resume (checked h m world) = .ok completed)
    (ho : openSink h (layout m memory) resume (checked h m world) = (.ok (), opened)) :
    run h m resume memory world =
      ⟨(validateQueues h.worker m.queues world).1 ++ [.noticed .sweepStarted, .noticed .sweepFinished],
        .ok ⟨.start 0, [], memory.calibrator.entries, layout m memory⟩, memory, opened⟩ := by
  have hvisits : visitAll h ⟨layout m memory, m.runs, completed⟩ m.plan.configurations
      (begun m memory opened) = ([], .ok (), begun m memory opened) := by
    rw [hp]
    rfl
  rw [run_eq hq hc ho hvisits, begun, hp]
  rfl

theorem empty_plan_loses_rows {a : Attempt} {path : String} {w : Workspace} {content : Bytes}
    (hp : m.plan.configurations = []) (hr : a.resume = false)
    (hv : view path w = .ok (.file content))
    (hq : (validateQueues (a.host path).worker m.queues (w, a.state)).2.1 = []) :
    ∃ findings, (a.ending path m w).result = .ok findings ∧ findings.summary.allComplete = true ∧
      view path (a.ending path m w).world.1 = .ok (.file (Sink.headerLine (layout m a.memory))) := by
  obtain ⟨t, ht, hh⟩ := Sink.create_of_view hv (layout m a.memory)
  have hc : completedRows (a.host path) (layout m a.memory) a.resume
      (checked (a.host path) m (w, a.state)) = .ok [] := by
    rw [hr]
    rfl
  have ho : openSink (a.host path) (layout m a.memory) a.resume
      (checked (a.host path) m (w, a.state)) =
        (.ok (), t, (checked (a.host path) m (w, a.state)).2) := by
    rw [Attempt.host, openSink_apart, checked_apart, hr]
    exact congrArg (fun r => (r.1, r.2, _)) ht
  have hrun : a.ending path m w = _ := run_of_empty_plan hp hq hc ho
  rw [hrun]
  exact ⟨_, rfl, rfl, hh.view⟩

end Empty

variable {a : CommandLine.Arguments} {f : SweepFile} {m : Matrix}

/--
An accepted sweep has chosen queues, threads and runs, and so has each of its configurations. It has
configurations at all if and only if its sweep file names a size and a delay; its total of runs says
the same, unless it is so large that it has wrapped around.
-/
theorem accepted_sweep_nonempty_iff (hm : CommandLine.sweepMatrix a f = .ok m) :
    ∃ keep, CommandLine.filter? a.filter = some keep ∧ m.Chosen f.sweep keep ∧
      (∀ c ∈ m.plan.configurations, c.queue ∈ f.sweep.queues ∧ keep c.queue = true ∧
        1 ≤ c.threads.producers ∧ 1 ≤ c.threads.consumers) ∧
      1 ≤ m.plan.runs ∧
      (m.plan.configurations ≠ [] ↔ f.sweep.sizes ≠ [] ∧ f.sweep.delays ≠ []) ∧
      (m.plan.configurations.length * m.runs.toNat < 2 ^ 64 →
        (1 ≤ m.plan.totalRuns ↔ f.sweep.sizes ≠ [] ∧ f.sweep.delays ≠ [])) := by
  obtain ⟨hq, hqn, ht, htn, hsizes, hdelays⟩ := axes_of_sweepMatrix hm
  obtain ⟨keep, hkeep, hmatrix, -, -, htwo, hruns⟩ := sweepMatrix_cases hm
  have hqueues (q : String) (hmem : q ∈ m.queues) : q ∈ f.sweep.queues ∧ keep q = true := by
    rw [hmatrix] at hmem
    exact List.mem_filter.mp (mem_firsts.mp hmem)
  have hone {n : UInt32} (hn : n ≠ 0) : 1 ≤ n := by
    rw [UInt32.le_iff_toNat_le]
    exact Nat.one_le_iff_ne_zero.mpr fun h => hn (UInt32.toNat_inj.mp h)
  have hplan : m.plan.configurations ≠ [] ↔ f.sweep.sizes ≠ [] ∧ f.sweep.delays ≠ [] := by
    rw [Ne, Matrix.plan_eq_nil_iff, ← hsizes, ← hdelays]
    simp [hq, ht]
  refine ⟨keep, hkeep, ⟨hqueues, hqn, htn, htwo, hruns⟩, fun c hc => ?_, hone hruns, hplan,
    fun hfit => (Matrix.one_le_totalRuns_iff hruns hfit).trans hplan⟩
  obtain ⟨hcq, hct, -⟩ := Matrix.mem_plan.mp hc
  obtain ⟨hlisted, hkept⟩ := hqueues _ hcq
  obtain ⟨hp, hr⟩ := htwo _ hct
  exact ⟨hlisted, hkept, hone hp, hone hr⟩

theorem accepted_sweep_nonempty_of_two_sizes :
    CommandLine.sweepMatrix .empty (fileOfSizes [64, 128]) = .ok (matrixOfSizes [64, 128]) ∧
      1 ≤ (matrixOfSizes [64, 128]).plan.totalRuns := by
  have hm := sweepMatrix_fileOfSizes [64, 128]
  obtain ⟨-, -, -, -, -, -, htotal⟩ := accepted_sweep_nonempty_iff hm
  exact ⟨hm, (htotal (by decide)).mpr (by decide)⟩

def oldRows : Bytes := Bytes.ofText
  "Queue,Producers,Consumers,Size,Items,Runs,Score,Score Error\nA,1,1,64,100000,10,2.5,0.5\n"

theorem empty_sweep_accepted :
    CommandLine.sweepMatrix .empty (fileOfSizes []) = .ok (matrixOfSizes []) ∧
      (matrixOfSizes []).plan.configurations = [] ∧ (matrixOfSizes []).plan.totalRuns = 0 ∧
      Sink.keysIn .withoutDelay oldRows = .ok [⟨"A", 1, 1, 64, 100000, 10, none⟩] ∧
      let ending := { steadyAttempt .standard with resume := false }.ending "out.csv"
        (matrixOfSizes []) (Workspace.oneFile oldRows)
      ∃ findings, ending.result = .ok findings ∧ findings.summary.allComplete = true ∧
        view "out.csv" ending.world.1 = .ok (.file (Sink.headerLine .withoutDelay)) := by
  have hkeys : Sink.keysIn .withoutDelay oldRows =
      .ok [⟨"A", 1, 1, 64, 100000, 10, none⟩] := by decide +kernel
  exact ⟨sweepMatrix_fileOfSizes [], rfl, rfl, hkeys,
    empty_plan_loses_rows rfl rfl (Workspace.view_oneFile oldRows)
      (no_queue_rejected (fun _ _ => rfl) _ _)⟩

end Sweep

end CalibratedSweep
