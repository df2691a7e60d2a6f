import CalibratedSweep.Proofs.Sweep.Memory
import CalibratedSweep.Proofs.Sweep.Output

namespace CalibratedSweep.Sweep

open Workspace (Holds blank sinkFile vacant_blank view)

variable {path : String} {σ : Type} {w : Worker σ} {p : Probe σ} {m : Matrix} {resume : Bool}
  {memory : Memory} {world : Workspace × σ}

theorem run_ok {completed : List RowKey} {t : Workspace}
    (hq : (validateQueues (Host.apart w p (sinkFile path)).worker m.queues world).2.1 = [])
    (hc : (if resume then Sink.completed (sinkFile path) (layout m memory) world.1 else .ok []) =
      .ok completed)
    (ho : openFile (sinkFile path) (layout m memory) resume world.1 = (.ok (), t)) :
    ∃ findings, (run (.apart w p (sinkFile path)) m resume memory world).result = .ok findings := by
  rw [← checked_apart (w := w) (p := p) (m := m)] at hc ho
  obtain ⟨events, b, hv⟩ := visitAll_apart w p path ⟨layout m memory, m.runs, completed⟩
    m.plan.configurations
    (begun m memory (t, (checked (.apart w p (sinkFile path)) m world).2))
  have hopen := openSink_apart w p (sinkFile path) (layout m memory) resume
    (checked (.apart w p (sinkFile path)) m world)
  rw [ho] at hopen
  rw [run_eq hq hc hopen hv]
  exact ⟨_, rfl⟩

theorem ending_apart {keys : List RowKey} {t : Workspace} {findings : Findings}
    (hc : (if resume then Sink.completed (sinkFile path) (layout m memory) world.1 else .ok []) =
      .ok keys)
    (ho : openFile (sinkFile path) (layout m memory) resume world.1 = (.ok (), t))
    (hok : (run (.apart w p (sinkFile path)) m resume memory world).result = .ok findings) :
    ∃ blocks b, Visits (.apart w p (sinkFile path)) ⟨layout m memory, m.runs, keys⟩
        m.plan.configurations
        (begun m memory (t, (checked (.apart w p (sinkFile path)) m world).2)) blocks b ∧
      run (.apart w p (sinkFile path)) m resume memory world =
        ⟨(validateQueues (Host.apart w p (sinkFile path)).worker m.queues world).1 ++
            (.noticed .sweepStarted :: blocks.flatten ++ [.noticed .sweepFinished]),
          .ok ⟨b.summary, b.incomplete, b.memory.calibrator.entries, layout m memory⟩, b.memory,
          b.world⟩ := by
  obtain ⟨keys', opened, blocks, b, -, hc', ho', hv, hrun⟩ := ending_of_eq_ok hok
  rw [completedRows_apart, checked_apart] at hc'
  rw [openSink_apart, checked_apart, ho] at ho'
  obtain rfl := Except.ok.inj (hc'.symm.trans hc)
  obtain ⟨-, rfl⟩ := Prod.mk.inj ho'
  exact ⟨blocks, b, hv, hrun⟩

/--
The calls of a sweep are those of its configurations, in the order of the plan, and its rows are
theirs; the file is what it was when it was opened, with the records of these rows behind it. A sweep
into the output at this path, without a pipe there, is the same one.
-/
theorem run_calls_and_rows {settings : Calibration.Settings} {policy : TimeBound.Policy}
    {findings : Findings} (hm : memory.Reachable settings policy)
    (hok : (run (.apart w p (sinkFile path)) m resume memory world).result = .ok findings) :
    let h := Host.apart w p (sinkFile path)
    let r := run h m resume memory world
    let s := Schema.forDelays m.delays settings.minDelay
    ∃ completed parts t opened added,
      (if resume then Sink.completed (sinkFile path) s world.1 else .ok []) = .ok completed ∧
      openFile (sinkFile path) s resume world.1 = (.ok (), t) ∧
      view path t = .ok (.file opened) ∧ opened ≠ [] ∧
      Happened h s resume r.events ⟨world, memory.calibrator⟩ ⟨r.world, r.memory.calibrator⟩ ∧
      List.Forall₂ (Part.Of ⟨s, m.runs, completed⟩ policy r.memory.calibrator.known?)
        m.plan.configurations parts ∧
      r.events.filterMap Event.call? = parts.flatMap Part.calls ∧
      r.events.filterMap Event.row? = parts.filterMap Part.row ∧
      view path r.world.1 = .ok (.file (opened ++ added)) ∧
      added = (parts.filterMap Part.row).flatMap (Sink.rowLine s) ∧
      Sink.Adds s (parts.filterMap Part.row) added ∧
      (Workspace.pipe? path world.1 = none →
        run (.apart w p (Workspace.output path)) m resume memory world = r) := by
  dsimp only
  have hsound := hm.sound
  have hlayout : layout m memory = .forDelays m.delays settings.minDelay := by
    rw [layout, hsound.settings]
  obtain ⟨completed, opened, blocks, b, hq, hc, ho, hv, hrun⟩ := ending_of_eq_ok hok
  have hhappened := run_happened hok
  rw [hlayout] at hc ho hv hhappened
  rw [completedRows_apart, checked_apart] at hc
  rw [openSink_apart, checked_apart] at ho
  obtain ⟨hopen, hopened⟩ := Prod.mk.inj ho
  have hfile : openFile (sinkFile path) (.forDelays m.delays settings.minDelay) resume world.1 =
      (.ok (), opened.1) := by
    rw [← hopened, ← hopen]
  obtain ⟨found, hh, hne⟩ := holds_of_openFile hfile
  have hblocks := hv.blocks hsound.bounds
  obtain ⟨parts, hparts, hcalls, hrows⟩ := parts_of_blocks hblocks
  obtain ⟨hcheck, hcheck'⟩ := call?_validateQueues (Host.apart w p (sinkFile path)).worker m.queues
    world
  have hend := (hv.happened resume).holds hv.unopened hh
  rw [hrows] at hend
  refine ⟨completed, parts, opened.1, found, _, hc, hfile, hh.view, hne, hhappened, ?_, ?_, ?_, ?_,
    rfl, Sink.adds_rowLines _ _, run_output w p m resume memory world.2⟩
  · rw [hrun]
    exact hparts
  · rw [hrun, List.filterMap_append, hcheck, ← hcalls]
    simp only [List.cons_append, List.filterMap_cons, List.filterMap_append, List.filterMap_nil,
      List.append_nil, List.nil_append, Event.call?]
  · rw [hrun, List.filterMap_append, hcheck', ← hrows]
    simp only [List.cons_append, List.filterMap_cons, List.filterMap_append, List.filterMap_nil,
      List.append_nil, List.nil_append, Event.row?]
  · rw [hrun]
    exact hend.view

def steady : Worker Unit := ⟨fun _ world => (.ok (), world), fun _ _ _ world => (.success 1, world)⟩

def silent : Probe Unit := fun _ world => (.ok "", world)

/-- A result file that takes whatever is written and shows none of it. -/
def sieve : SinkFile Unit := ⟨fun _ => .ok .missing, fun _ x => (.ok (), x), fun _ x => (.ok (), x)⟩

theorem run_calls_and_rows_blank :
    let m : Matrix := ⟨["A"], [⟨1, 1⟩], [64], [0], 1000, 2⟩
    let r := run (.apart steady silent (sinkFile "out.csv")) m true (.fresh .standard .standard)
      (blank, ())
    ∃ findings parts, r.result = .ok findings ∧
      List.Forall₂ (Part.Of ⟨.withoutDelay, 2, []⟩ .standard r.memory.calibrator.known?)
        m.plan.configurations parts ∧
      r.events.filterMap Event.call? = parts.flatMap Part.calls ∧
      ∃ content, view "out.csv" r.world.1 = .ok (.file content) ∧
        (Csv.records content).map Csv.Record.texts? = some Schema.withoutDelay.header ::
          (parts.filterMap Part.row).map fun row => some (Schema.withoutDelay.record row) := by
  intro m r
  have hlayout : Schema.forDelays m.delays Calibration.Settings.standard.minDelay = .withoutDelay := by
    decide
  have hc : Sink.completed (sinkFile "out.csv") .withoutDelay blank = .ok [] :=
    Sink.completed_vacant vacant_blank
  obtain ⟨t, ht, hh⟩ := Sink.append_vacant vacant_blank .withoutDelay
  have hfresh : (Memory.fresh .standard .standard).Reachable .standard .standard := .fresh
  have hok : ∃ findings, r.result = .ok findings := run_ok rfl hc ht
  obtain ⟨findings, hok⟩ := hok
  obtain ⟨completed, parts, t', opened, added, hc', ht', hview, -, -, hparts, hcalls, -, hend, -,
    hadds, -⟩ := run_calls_and_rows hfresh hok
  rw [hlayout] at hc' ht' hparts hadds
  obtain rfl : completed = [] := Except.ok.inj (hc'.symm.trans hc)
  obtain rfl : t' = t := congrArg Prod.snd (ht'.symm.trans ht)
  rw [hh.view] at hview
  cases hview
  have hheader : (Csv.records (Sink.headerLine .withoutDelay)).map Csv.Record.texts? =
    [some Schema.withoutDelay.header] := by decide +kernel
  have hread := hadds.behind _ (Sink.headerLine_ne_nil _) (Sink.terminated_headerLine .withoutDelay)
  rw [hheader] at hread
  exact ⟨findings, parts, hok, hparts, hcalls, _, hend, hread⟩

end CalibratedSweep.Sweep
