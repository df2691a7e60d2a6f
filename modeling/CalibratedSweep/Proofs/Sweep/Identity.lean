import CalibratedSweep.CommandLine.Request
import CalibratedSweep.Proofs.Plan.Distinct
import CalibratedSweep.Proofs.Sweep.Attempt

namespace CalibratedSweep.Sweep

open Workspace (Holds Vacant sinkFile view)

section Rows

variable {σ : Type} {h : Host σ} {set : Setting}

theorem Visit.rows {c : Configuration} {a b : Walk σ} {events : List Event}
    (hv : Visit h set c a events b) : events.filterMap Event.row? = [] ∨
      ∃ row, events.filterMap Event.row? = [row] ∧ row.key = .ofConfiguration c set.runs ∧
        set.schema.keyOf row.key ∉ set.completed := by
  cases hv with
  | done hk hw hm => exact .inl rfl
  | @uncalibrated hk r hr e he t hw hm =>
    left
    rw [List.filterMap_append, (call?_calibrationEvents c.delay r.probed r.result).2]
    rfl
  | @incomplete hk r hr k hc n n' outcomes world hruns missing hrow p t hw hm =>
    exact .inl (call?_block c r.probed r.result k _ outcomes _).2
  | @complete hk r hr k hc n n' outcomes world hruns row hrow p t hwrite hm =>
    have hkey := key_of_reduce hrow
    exact .inr ⟨row, (call?_block c r.probed r.result k _ outcomes _).2, hkey, by rwa [hkey]⟩

theorem Visits.rows {cs : List Configuration} {a b : Walk σ} {blocks : List (List Event)}
    (hv : Visits h set cs a blocks b) :
    List.Sublist ((blocks.flatten.filterMap Event.row?).map fun r => set.schema.keyOf r.key)
        (cs.map fun c => set.schema.keyOf (.ofConfiguration c set.runs)) ∧
      ∀ r ∈ blocks.flatten.filterMap Event.row?, set.schema.keyOf r.key ∉ set.completed := by
  induction hv with
  | nil a => exact ⟨List.Sublist.slnil, by simp⟩
  | @cons c rest a b d block blocks hv _ ih =>
    obtain ⟨hsub, hnew⟩ := ih
    rw [List.flatten_cons, List.filterMap_append]
    obtain hnone | ⟨row, hone, hkey, hrow⟩ := hv.rows
    · rw [hnone]
      exact ⟨hsub.cons _, hnew⟩
    · rw [hone, List.singleton_append, List.map_cons, List.map_cons, hkey]
      refine ⟨hsub.cons_cons _, fun r hr => ?_⟩
      obtain rfl | hr := List.mem_cons.mp hr
      · exact hrow
      · exact hnew r hr

end Rows

variable {path : String} {m : Matrix} {w t : Workspace}

/-- A vacant path, or a file with rows of different keys that ends between two records. -/
def Apart (path : String) (s : Schema) (w : Workspace) : Prop :=
  Vacant path w ∨ ∃ content keys, content ≠ [] ∧ view path w = .ok (.file content) ∧
    Sink.keysIn s content = .ok keys ∧ keys.Nodup ∧ Sink.Terminated content

theorem Apart.keys {s : Schema} (h : Apart path s w) {content : Bytes}
    (hv : view path w = .ok (.file content)) :
    ∃ keys, Sink.keysIn s content = .ok keys ∧ keys.Nodup := by
  obtain ⟨hm | he, -⟩ | ⟨found, keys, -, hf, hk, hn, -⟩ := h
  · rw [hm] at hv; cases hv
  · rw [he] at hv; cases hv; exact ⟨[], rfl, List.nodup_nil⟩
  · rw [hf] at hv; cases hv; exact ⟨keys, hk, hn⟩

theorem Apart.ready {s : Schema} {resume : Bool} (h : Apart path s w)
    (hr : resume = true ∨ Vacant path w) : ∃ opened keys, Ready path s resume w opened keys ∧
      opened ≠ [] ∧ Sink.keysIn s opened = .ok keys ∧ keys.Nodup ∧ Sink.Terminated opened := by
  by_cases hv : Vacant path w
  · exact ⟨_, _, .inl ⟨hv, rfl, rfl⟩, Sink.headerLine_ne_nil s, Sink.keysIn_headerLine s,
      List.nodup_nil, Sink.terminated_headerLine s⟩
  · obtain hv' | ⟨content, keys, hne, hf, hk, hn, ht⟩ := h
    · exact absurd hv' hv
    · exact ⟨content, keys, .inr ⟨hr.resolve_right hv, hne, hf, hk⟩, hne, hk, hn, ht⟩

theorem Apart.of_holds {s : Schema} {content : Bytes} {keys : List RowKey} {rows : List Row}
    (hne : content ≠ []) (hk : Sink.keysIn s content = .ok keys) (ht : Sink.Terminated content)
    (hh : Holds path (content ++ rows.flatMap (Sink.rowLine s)) t)
    (hn : (keys ++ rows.map fun r => s.keyOf r.key).Nodup) : Apart path s t := by
  obtain ⟨hread, hend⟩ := Sink.keysIn_append_rows hne hk ht rows
  exact .inr ⟨_, _, by simp [hne], hh.view, hread, hn, hend⟩

theorem Apart.reaches {a : Attempt} (hp : m.plan.configurations.Nodup)
    (h : Apart path (layout m a.memory) w) (hr : a.resume = true ∨ Vacant path w)
    {before : List Event} (ht : a.Reaches path m w before t) : Apart path (layout m a.memory) t := by
  by_cases hq : (validateQueues (a.host path).worker m.queues (w, a.state)).2.1 = []
  · obtain ⟨opened, keys, hready, hne, hk, hn, hend⟩ := h.ready hr
    obtain ⟨u, blocks, b, hc⟩ := exists_course hready hq
    obtain ⟨-, rfl⟩ | ⟨pre, -, hpre, hh⟩ := hc.reaches ht
    · exact h
    · refine Apart.of_holds hne hk hend hh ?_
      obtain ⟨hsub, hnew⟩ := hc.visits.rows
      have hrows := rows_mono hpre
      have hkeys : (m.plan.configurations.map fun c =>
          (layout m a.memory).keyOf (.ofConfiguration c m.runs)).Nodup := by
        refine List.Nodup.map_on (fun c hc d hd he => ?_) hp
        exact Schema.keyOf_injective_on_plan hc hd he
      rw [List.nodup_append]
      refine ⟨hn, hkeys.sublist ((hrows.sublist.map _).trans hsub), ?_⟩
      rintro k hk' k' hmem rfl
      obtain ⟨r, hrow, rfl⟩ := List.mem_map.mp hmem
      exact hnew r (hrows.mem hrow) hk'
  · rw [reaches_of_invalid hq ht]
    exact h

theorem Left.apart {settings : Calibration.Settings} (hp : m.plan.configurations.Nodup)
    (hl : Left path m (fun a => a.memory.calibrator.settings = settings) w) :
    Apart path (.forDelays m.delays settings.minDelay) w := by
  induction hl with
  | vacant hv => exact .inl hv
  | headless hw hv ht ih => exact .inl (Sink.vacant_of_start hv ht).closed
  | @cut w t a before hw ha hr ht ih =>
    have hlayout : layout m a.memory = .forDelays m.delays settings.minDelay := by rw [layout, ha]
    rw [← hlayout] at ih ⊢
    obtain hv | hfile := ih.reaches hp hr ht
    · exact .inl hv.closed
    · exact .inr hfile

section Necessity

def obliging : Probe Unit := fun _ world => (.ok "1\n1\n", world)

theorem repeatRuns_success {σ : Type} {w : Worker σ}
    (hw : ∀ c k bound world, (w.measure c k bound world).1.isSuccess = true) (c : Configuration)
    (k : Calibration) (bound : Duration) (repetition left : Nat) (n : Count) (world : σ) :
    ∀ o ∈ (repeatRuns w c k bound repetition left n world).2.1, o.isSuccess = true := by
  induction left generalizing repetition n world with
  | zero => simp [repeatRuns]
  | succ left ih =>
    have hfirst := hw c k bound world
    rw [repeatRuns]
    dsimp only
    rw [if_pos hfirst]
    intro o ho
    obtain rfl | ho := List.mem_cons.mp ho
    · exact hfirst
    · exact ih _ _ _ o ho

theorem answered_obliging (s : Calibration.Settings) (delay : UInt64) :
    ∃ k, s.answered (fun _ => .ok "1\n1\n") delay = .ok k := by
  unfold Calibration.Settings.answered
  split
  · exact ⟨_, rfl⟩
  · exact ⟨⟨1, 1⟩, rfl⟩

variable {f : SinkFile Workspace} {set : Setting}

theorem Visit.steady {c : Configuration} {a b : Walk (Workspace × Unit)} {events : List Event}
    (hv : Visit (.apart Sweep.steady obliging f) set c a events b)
    (hk : set.schema.keyOf (.ofConfiguration c set.runs) ∉ set.completed)
    (hg : a.memory.calibrator.Agrees fun _ => .ok "1\n1\n") :
    (∃ row, events.filterMap Event.row? = [row] ∧ row.key = .ofConfiguration c set.runs) ∧
      b.memory.calibrator.Agrees fun _ => .ok "1\n1\n" := by
  have hanswer (q : Calibration.Request) :
      ((Host.apart Sweep.steady obliging f).probe q a.world).1 = .ok "1\n1\n" := rfl
  obtain ⟨hresult, hagrees⟩ := hg.resolve hanswer c.delay
  obtain ⟨k', hk'⟩ := answered_obliging a.memory.calibrator.settings c.delay
  cases hv with
  | done hdone hw hm => exact absurd hdone hk
  | uncalibrated _ hr he hw hm =>
    rw [hr, he, hk'] at hresult
    cases hresult
  | @incomplete _ r hr k hc n n' outcomes world hruns missing hrow p t hw hm =>
    have hsuccess := repeatRuns_success (w := (Host.apart Sweep.steady obliging f).worker)
      (fun _ _ _ _ => rfl) c k (a.memory.bounds.bound c.ops c.delay).1 1 set.runs.toNat n r.world
    rw [hruns] at hsuccess
    obtain ⟨scores, bad, -, hb, rfl⟩ := (stopped_of_repeatRuns hruns).of_reduce_eq_error hrow
    have hbad := hsuccess bad (by simp)
    rw [hb] at hbad
    cases hbad
  | @complete _ r hr k hc n n' outcomes world hruns row hrow p t hwrite hm =>
    rw [hr] at hagrees
    rw [hm]
    exact ⟨⟨row, (call?_block c r.probed r.result k _ outcomes _).2, key_of_reduce hrow⟩, hagrees⟩

theorem Visits.steady {cs : List Configuration} {a b : Walk (Workspace × Unit)}
    {blocks : List (List Event)} (hv : Visits (.apart Sweep.steady obliging f) set cs a blocks b)
    (hk : set.completed = []) (hg : a.memory.calibrator.Agrees fun _ => .ok "1\n1\n") :
    (blocks.flatten.filterMap Event.row?).map Row.key =
      cs.map fun c => .ofConfiguration c set.runs := by
  induction hv with
  | nil a => rfl
  | cons hv _ ih =>
    obtain ⟨⟨row, hrow, hkey⟩, hg⟩ := hv.steady (by simp [hk]) hg
    rw [List.flatten_cons, List.filterMap_append, hrow, List.map_append, ih hg, List.map_cons,
      List.map_cons, hkey]
    rfl

def steadyAttempt (settings : Calibration.Settings) : Attempt :=
  ⟨Unit, Sweep.steady, obliging, (), .fresh settings .standard, true⟩

/-- What it leaves behind has the keys of the whole plan, as often as they are in the plan. -/
theorem steadyAttempt_left (settings : Calibration.Settings) (m : Matrix) (hv : Vacant path w) :
    ∃ t content, Left path m (fun a => a.memory.calibrator.settings = settings) t ∧
      view path t = .ok (.file content) ∧
      Sink.keysIn (.forDelays m.delays settings.minDelay) content =
        .ok (m.plan.configurations.map fun c =>
          (Schema.forDelays m.delays settings.minDelay).keyOf (.ofConfiguration c m.runs)) := by
  let a := steadyAttempt settings
  have hlayout : layout m a.memory = .forDelays m.delays settings.minDelay := rfl
  obtain ⟨u, blocks, b, hc⟩ := exists_course (a := a) (m := m) (.inl ⟨hv, rfl, rfl⟩)
    (no_queue_rejected (fun _ _ => rfl) m.queues (w, ()))
  obtain ⟨findings, hok⟩ := hc.result
  have hreach : a.Reaches path m w (a.ending path m w).events (a.ending path m w).world.1 :=
    ⟨List.prefix_refl _, _, _, run_happened hok⟩
  have hfile := (hc.visits.happened true).holds hc.visits.unopened hc.holds
  have hkeys := hc.visits.steady rfl (Calibrator.agrees_empty settings)
  have hread := Sink.keysIn_sheet (layout m a.memory) (blocks.flatten.filterMap Event.row?)
  rw [hc.world] at hreach
  refine ⟨_, _, .cut (.vacant hv) rfl (.inl rfl) hreach, hfile.view, hread.trans ?_⟩
  rw [← hlayout]
  have hmap := congrArg (List.map (layout m a.memory).keyOf) hkeys
  rw [List.map_map, List.map_map] at hmap
  exact congrArg Except.ok hmap

end Necessity

theorem sweepMatrix_cases {a : CommandLine.Arguments} {f : SweepFile}
    (hm : CommandLine.sweepMatrix a f = .ok m) : ∃ keep, CommandLine.filter? a.filter = some keep ∧
      m = ⟨selectQueues keep f.sweep.queues,
        CalibratedSweep.threadPairs f.sweep.threads f.sweep.shapes f.sweep.threadCounts, f.sweep.sizes,
        f.sweep.delays, a.ops.getD f.sweep.ops, a.runs.getD f.sweep.runs⟩ ∧
      m.queues ≠ [] ∧ m.threadPairs ≠ [] ∧
      (∀ p ∈ m.threadPairs, p.producers ≠ 0 ∧ p.consumers ≠ 0) ∧ m.runs ≠ 0 := by
  unfold CommandLine.sweepMatrix at hm
  split at hm
  · cases hm
  rename_i keep hkeep
  dsimp only at hm
  split at hm
  · cases hm
  rename_i hq
  split at hm
  · cases hm
  rename_i ht
  split at hm
  · cases hm
  rename_i htwo
  split at hm
  · cases hm
  rename_i hruns
  cases hm
  refine ⟨keep, hkeep, rfl, by simpa using hq, by simpa using ht, fun p hp => ?_, hruns⟩
  have hp' := List.find?_eq_none.mp htwo p hp
  simpa using hp'

theorem axes_of_sweepMatrix {a : CommandLine.Arguments} {f : SweepFile}
    (hm : CommandLine.sweepMatrix a f = .ok m) : m.queues ≠ [] ∧ m.queues.Nodup ∧
      m.threadPairs ≠ [] ∧ m.threadPairs.Nodup ∧ m.sizes = f.sweep.sizes ∧
      m.delays = f.sweep.delays := by
  obtain ⟨keep, -, rfl, hq, ht, -, -⟩ := sweepMatrix_cases hm
  exact ⟨hq, nodup_firsts _, ht, nodup_firsts _, rfl, rfl⟩

/--
Resumed sweeps of a sweep file never write the same key twice if and only if its sizes and its
delays are free of repetitions, or one of the two is empty.
-/
theorem stored_keys_nodup_iff {a : CommandLine.Arguments} {f : SweepFile}
    (hm : CommandLine.sweepMatrix a f = .ok m) :
    (∀ path w, Left path m (fun t => t.memory.calibrator.settings = f.probe.settings) w →
      ∀ content, view path w = .ok (.file content) → ∃ keys,
        Sink.keysIn (.forDelays m.delays f.probe.minDelay) content = .ok keys ∧ keys.Nodup) ↔
      f.sweep.sizes = [] ∨ f.sweep.delays = [] ∨ f.sweep.sizes.Nodup ∧ f.sweep.delays.Nodup := by
  obtain ⟨hq, hqn, ht, htn, hsizes, hdelays⟩ := axes_of_sweepMatrix hm
  rw [← hsizes, ← hdelays]
  constructor
  · intro hall
    by_cases hempty : m.sizes = [] ∨ m.delays = []
    · exact hempty.imp_right .inl
    · rw [not_or] at hempty
      obtain ⟨t, content, hleft, hview, hkeys⟩ :=
        steadyAttempt_left f.probe.settings m Workspace.vacant_blank
      obtain ⟨keys, hkeys', hn⟩ := hall _ t hleft content hview
      obtain rfl := Except.ok.inj (hkeys'.symm.trans hkeys)
      have hplan := (Matrix.nodup_plan_iff hq ht hempty.1 hempty.2).mp (hn.of_map _)
      exact .inr (.inr hplan.2.2)
  · intro hcond path w hleft content hview
    have hplan : m.plan.configurations.Nodup := by
      obtain h | h | ⟨hs, hd⟩ := hcond
      · rw [Matrix.plan_eq_nil (.inr (.inr (.inl h)))]
        exact List.nodup_nil
      · rw [Matrix.plan_eq_nil (.inr (.inr (.inr h)))]
        exact List.nodup_nil
      · exact Matrix.nodup_plan hqn htn hs hd
    exact (hleft.apart hplan).keys hview

def fileOfSizes (sizes : List UInt64) : SweepFile :=
  { SweepFile.standard with
    sweep := { SweepFile.MatrixSection.standard with
      queues := ["A"], threads := [⟨1, 1⟩], sizes } }

def matrixOfSizes (sizes : List UInt64) : Matrix := ⟨["A"], [⟨1, 1⟩], sizes, [0], 100000, 10⟩

theorem sweepMatrix_fileOfSizes (sizes : List UInt64) :
    CommandLine.sweepMatrix .empty (fileOfSizes sizes) = .ok (matrixOfSizes sizes) := rfl

theorem stored_keys_nodup_of_two_sizes :
    CommandLine.sweepMatrix .empty (fileOfSizes [64, 128]) = .ok (matrixOfSizes [64, 128]) ∧
      ∀ path w, Left path (matrixOfSizes [64, 128])
          (fun t => t.memory.calibrator.settings = Calibration.Settings.standard) w →
        ∀ content, view path w = .ok (.file content) → ∃ keys,
          Sink.keysIn (.forDelays [0] 100) content = .ok keys ∧ keys.Nodup := by
  have hm := sweepMatrix_fileOfSizes [64, 128]
  exact ⟨hm, (stored_keys_nodup_iff hm).mpr (.inr (.inr (by decide)))⟩

theorem repeated_size_stored_twice :
    CommandLine.sweepMatrix .empty (fileOfSizes [64, 64]) = .ok (matrixOfSizes [64, 64]) ∧
      ∃ w content, Left "out.csv" (matrixOfSizes [64, 64])
          (fun t => t.memory.calibrator.settings = Calibration.Settings.standard) w ∧
        view "out.csv" w = .ok (.file content) ∧
        Sink.keysIn (.forDelays [0] 100) content =
          .ok [⟨"A", 1, 1, 64, 100000, 10, none⟩, ⟨"A", 1, 1, 64, 100000, 10, none⟩] := by
  obtain ⟨w, content, hleft, hview, hkeys⟩ :=
    steadyAttempt_left Calibration.Settings.standard (matrixOfSizes [64, 64]) Workspace.vacant_blank
  exact ⟨sweepMatrix_fileOfSizes _, w, content, hleft, hview, hkeys⟩

end CalibratedSweep.Sweep
