import CalibratedSweep.Proofs.Sweep.Blocks

namespace CalibratedSweep

structure Memory.Sound (settings : Calibration.Settings) (policy : TimeBound.Policy)
    (memory : Memory) : Prop where
  settings : memory.calibrator.settings = settings
  bounds : memory.bounds.Sound policy

inductive Memory.Reachable (settings : Calibration.Settings) (policy : TimeBound.Policy) :
    Memory → Prop
  | fresh : Reachable settings policy (.fresh settings policy)
  | sweep {σ : Type} {memory : Memory} (hm : Reachable settings policy memory) (h : Host σ)
    (m : Matrix) (resume : Bool) (world : σ) :
    Reachable settings policy (Sweep.run h m resume memory world).memory

variable {settings : Calibration.Settings} {policy : TimeBound.Policy}

theorem Memory.sound_fresh : (Memory.fresh settings policy).Sound settings policy :=
  ⟨rfl, TimeBound.Table.sound_empty policy⟩

namespace Sweep

variable {σ : Type}

theorem Visit.memory_sound {h : Host σ} {set : Setting} {c : Configuration} {a b : Walk σ}
    {events : List Event} (hv : Visit h set c a events b) (ha : a.memory.Sound settings policy) :
    b.memory.Sound settings policy :=
  ⟨hv.grows.1.trans ha.settings, hv.sound ha.bounds⟩

theorem visit_sound (h : Host σ) (set : Setting) (c : Configuration) {a : Walk σ}
    (ha : a.memory.Sound settings policy) : (visit h set c a).2.2.memory.Sound settings policy := by
  obtain ⟨events, b, hv, hvisit⟩ | ⟨_, _, b, hv, hfailed⟩ := visit_cases h set c a
  · rw [hv]
    exact hvisit.memory_sound ha
  · cases hfailed with
    | write hk hr hc hruns hrow hwrite hm =>
      have hgrows := (a.memory.calibrator.resolve_grows h.probe c.delay a.world).1
      rw [hr] at hgrows
      rw [hv, hm]
      exact ⟨hgrows.1.trans ha.settings, (ha.bounds.bound c.ops c.delay).2⟩

theorem visitAll_sound (h : Host σ) (set : Setting) (cs : List Configuration) {a : Walk σ}
    (ha : a.memory.Sound settings policy) :
    (visitAll h set cs a).2.2.memory.Sound settings policy := by
  induction cs generalizing a with
  | nil => exact ha
  | cons c cs ih =>
    have hfirst := visit_sound h set c ha
    rw [visitAll]
    rcases hv : visit h set c a with ⟨events, _ | ⟨⟨⟩⟩, b⟩
    · rw [hv] at hfirst
      exact hfirst
    · rw [hv] at hfirst
      exact ih hfirst

theorem run_sound (h : Host σ) (m : Matrix) (resume : Bool) {memory : Memory}
    (hm : memory.Sound settings policy) (world : σ) :
    (run h m resume memory world).memory.Sound settings policy := by
  by_cases hq : (validateQueues h.worker m.queues world).2.1 = []
  · rw [run_of_valid hq]
    cases completedRows h (layout m memory) resume (checked h m world) with
    | error e => exact hm
    | ok completed =>
      dsimp only
      rcases openSink h (layout m memory) resume (checked h m world) with ⟨_ | ⟨⟨⟩⟩, opened⟩
      · exact hm
      · have hall := visitAll_sound h ⟨layout m memory, m.runs, completed⟩ m.plan.configurations
          (a := begun m memory opened) hm
        unfold begun at hall
        simp only [sweepOpened]
        rcases hv : visitAll h ⟨layout m memory, m.runs, completed⟩ m.plan.configurations
          ⟨opened, memory, .start m.plan.configurations.length, ⟨0, m.plan.totalRuns⟩, []⟩ with
          ⟨events, _ | ⟨⟨⟩⟩, b⟩ <;> rw [hv] at hall <;> exact hall
  · rw [run_of_invalid hq]
    exact hm

end Sweep

theorem Memory.Reachable.sound {memory : Memory} (hm : memory.Reachable settings policy) :
    memory.Sound settings policy := by
  induction hm with
  | fresh => exact Memory.sound_fresh
  | sweep _ h m resume world ih => exact Sweep.run_sound h m resume ih world

end CalibratedSweep
