import CalibratedSweep.CommandLine.Setup
import CalibratedSweep.Proofs.Schema.Layout
import CalibratedSweep.Proofs.Sweep.Counters
import CalibratedSweep.Proofs.Sweep.Probings
/-!
Sweeps that need no probe. The threshold from which on a delay is calibrated is looked at when the
probe is set up, when the layout of the file is chosen, and when a delay is resolved; all three agree.
-/

namespace CalibratedSweep

theorem Calibrator.resolve_of_lt {σ : Type} (p : Probe σ) {k : Calibrator} {delay : UInt64}
    (h : delay < k.settings.minDelay) (world : σ) :
    k.resolve p delay world = ⟨.ok .none, none, k, world⟩ :=
  resolve_of_known (if_pos h) world

namespace Sweep

variable {σ : Type} (h : Host σ) (set : Setting)

structure Waitless (events : List Event) : Prop where
  requests : events.filterMap Event.request? = []
  calls : ∀ call ∈ events.filterMap Event.call?, call.calibration = .none

theorem Waitless.append {events later : List Event} (h : Waitless events) (h' : Waitless later) :
    Waitless (events ++ later) where
  requests := by rw [List.filterMap_append, h.requests, h'.requests, List.append_nil]
  calls := by
    intro call hcall
    rw [List.filterMap_append, List.mem_append] at hcall
    exact hcall.elim (h.calls call) (h'.calls call)

theorem waitless_validateQueues (w : Worker σ) (queues : List String) (world : σ) :
    Waitless (validateQueues w queues world).1 where
  requests := request?_of_probedDelay? (probedDelay?_validateQueues w queues world)
  calls := by
    rw [(call?_validateQueues w queues world).1]
    exact nofun

structure Unprobed (events : List Event) (a b : Walk σ) : Prop extends Waitless events where
  skipped : b.summary.calibrationSkipped = a.summary.calibrationSkipped
  calibrator : b.memory.calibrator = a.memory.calibrator

theorem Unprobed.append {events later : List Event} {a b d : Walk σ} (h : Unprobed events a b)
    (h' : Unprobed later b d) : Unprobed (events ++ later) a d where
  toWaitless := h.toWaitless.append h'.toWaitless
  skipped := h'.skipped.trans h.skipped
  calibrator := h'.calibrator.trans h.calibrator

theorem calibrationSkipped_foldl_countRun (outcomes : List Outcome) (s : Summary) :
    (outcomes.foldl Summary.countRun s).calibrationSkipped = s.calibrationSkipped := by
  induction outcomes generalizing s with
  | nil => rfl
  | cons o outcomes ih => exact ih (s.countRun o)

theorem settle_calls (c : Configuration) (k : Calibration) (a : Walk σ) :
    (∀ call ∈ (settle h set c k a).1.filterMap Event.call?, call.calibration = k) ∧
      (settle h set c k a).2.2.summary.calibrationSkipped = a.summary.calibrationSkipped := by
  have hevents := (repeatRuns_events h.worker c k (a.memory.bounds.bound c.ops c.delay).1 1
    set.runs.toNat ⟨a.summary, a.progress⟩ a.world).1
  have hsummary := repeatRuns_summary h.worker c k (a.memory.bounds.bound c.ops c.delay).1 1
    set.runs.toNat ⟨a.summary, a.progress⟩ a.world
  dsimp only [settle]
  rw [hevents]
  generalize repeatRuns h.worker c k (a.memory.bounds.bound c.ops c.delay).1 1 set.runs.toNat
    ⟨a.summary, a.progress⟩ a.world = r at hsummary ⊢
  have hskipped : r.2.2.1.summary.calibrationSkipped = a.summary.calibrationSkipped := by
    rw [hsummary, calibrationSkipped_foldl_countRun]
  constructor
  · rw [List.filterMap_append, (call?_runEvents c k _ 1 r.2.1).1]
    intro call hcall
    obtain hcall | hcall := List.mem_append.mp hcall
    · obtain ⟨o, -, rfl⟩ := List.mem_map.mp hcall
      rfl
    · unfold conclude at hcall
      split at hcall
      · cases hcall
      · dsimp only at hcall
        split at hcall <;> cases hcall
  · unfold conclude
    split
    · exact hskipped
    · dsimp only
      split <;> exact hskipped

variable {c : Configuration} {a : Walk σ}

theorem visit_of_lt (hd : c.delay < a.memory.calibrator.settings.minDelay) :
    visit h set c a =
      if set.schema.keyOf (.ofConfiguration c set.runs) ∈ set.completed then
        ([], .ok (), skipDone set a)
      else settle h set c .none a := by
  rw [visit_eq, resolved, Calibrator.resolve_of_lt h.probe hd]
  rfl

theorem visit_unprobed (hd : c.delay < a.memory.calibrator.settings.minDelay) :
    Unprobed (visit h set c a).1 a (visit h set c a).2.2 := by
  rw [visit_of_lt h set hd]
  split
  · exact ⟨⟨rfl, nofun⟩, rfl, rfl⟩
  · obtain ⟨hplain, hcalibrator⟩ := settle_plain h set c .none a
    obtain ⟨hcalls, hskipped⟩ := settle_calls h set c .none a
    exact ⟨⟨request?_of_probedDelay? hplain, hcalls⟩, hskipped, hcalibrator⟩

/-- Below the threshold the probe makes no difference, and neither does what was probed before. -/
theorem visitAll_unprobed (p : Probe σ) {cs : List Configuration}
    (hd : ∀ c ∈ cs, c.delay < a.memory.calibrator.settings.minDelay) :
    Unprobed (visitAll h set cs a).1 a (visitAll h set cs a).2.2 ∧
      visitAll { h with probe := p } set cs a = visitAll h set cs a := by
  induction cs generalizing a with
  | nil => exact ⟨⟨⟨rfl, nofun⟩, rfl, rfl⟩, rfl⟩
  | cons c cs ih =>
    obtain ⟨hc, hcs⟩ := List.forall_mem_cons.mp hd
    have hfirst := visit_unprobed h set hc
    have hsame : visit { h with probe := p } set c a = visit h set c a := by
      rw [visit_of_lt _ set hc, visit_of_lt h set hc]
      rfl
    rw [visitAll, visitAll, hsame]
    rcases hv : visit h set c a with ⟨events, _ | ⟨⟨⟩⟩, t⟩ <;> rw [hv] at hfirst
    · exact ⟨hfirst, rfl⟩
    · have ht : ∀ c ∈ cs, c.delay < t.memory.calibrator.settings.minDelay := by
        rw [hfirst.calibrator]
        exact hcs
      obtain ⟨hrest, hsame'⟩ := ih ht
      dsimp only
      rw [hsame']
      exact ⟨hfirst.append hrest, rfl⟩

variable {m : Matrix} {memory : Memory}

section Runs

variable (hd : ∀ d ∈ m.delays, d < memory.calibrator.settings.minDelay)
include hd

theorem plan_below : ∀ c ∈ m.plan.configurations, c.delay < memory.calibrator.settings.minDelay :=
  fun c hc => hd c.delay (Matrix.mem_plan.mp hc).2.2.2.1

theorem sweepOpened_unprobed (world : σ) (p : Probe σ) :
    let r := sweepOpened h m memory set world
    (Waitless r.events ∧ ∀ findings, r.result = .ok findings →
        findings.summary.calibrationSkipped = 0) ∧
      sweepOpened { h with probe := p } m memory set world = r := by
  obtain ⟨hall, hsame⟩ := visitAll_unprobed h set (a := begun m memory world) p (plan_below hd)
  have hstarted : Waitless [.noticed .sweepStarted] := ⟨rfl, nofun⟩
  have hfinished : Waitless [.noticed .sweepFinished] := ⟨rfl, nofun⟩
  unfold begun at hall hsame
  dsimp only [sweepOpened]
  rw [hsame]
  refine ⟨?_, rfl⟩
  split <;> rename_i hv <;> rw [hv] at hall
  · exact ⟨hstarted.append hall.toWaitless, nofun⟩
  · refine ⟨(hstarted.append hall.toWaitless).append hfinished, ?_⟩
    rintro findings ⟨⟩
    exact hall.skipped

theorem run_unprobed (resume : Bool) (world : σ) :
    Waitless (run h m resume memory world).events ∧
      ∀ findings, (run h m resume memory world).result = .ok findings →
        findings.summary.calibrationSkipped = 0 := by
  have hchecks := waitless_validateQueues h.worker m.queues world
  have hbegins := run_begins h m resume memory world
  generalize run h m resume memory world = r at hbegins
  cases hbegins with
  | rejected hq => exact ⟨hchecks, nofun⟩
  | unreadable hq hc => exact ⟨hchecks, nofun⟩
  | unopened hq hc ho => exact ⟨hchecks, nofun⟩
  | @opened hq keys hc t ho =>
    obtain ⟨⟨hevents, hskipped⟩, -⟩ :=
      sweepOpened_unprobed h ⟨layout m memory, m.runs, keys⟩ hd t h.probe
    exact ⟨hchecks.append hevents, hskipped⟩

theorem run_anyProbe (resume : Bool) (world : σ) (p : Probe σ) :
    run { h with probe := p } m resume memory world = run h m resume memory world := by
  unfold run
  simp only [(sweepOpened_unprobed h _ hd _ p).2]
  rfl

end Runs

/-- A sweep that asks no probe, and that any other probe leaves as it is. No run has to wait. -/
structure NeedsNoProbe (m : Matrix) (resume : Bool) (memory : Memory) (world : σ) : Prop where
  requests : (run h m resume memory world).events.filterMap Event.request? = []
  calls : ∀ call ∈ (run h m resume memory world).events.filterMap Event.call?,
    call.calibration.center = 0 ∧ call.calibration.amplitude = 0
  skipped : ∀ findings, (run h m resume memory world).result = .ok findings →
    findings.summary.calibrationSkipped = 0
  anyProbe : ∀ p, run { h with probe := p } m resume memory world = run h m resume memory world

theorem needsNoProbe (hd : ∀ d ∈ m.delays, d < memory.calibrator.settings.minDelay)
    (resume : Bool) (world : σ) : NeedsNoProbe h m resume memory world := by
  obtain ⟨hevents, hskipped⟩ := run_unprobed h hd resume world
  refine ⟨hevents.requests, fun call hcall => ?_, hskipped, run_anyProbe h hd resume world⟩
  rw [hevents.calls call hcall]
  exact ⟨rfl, rfl⟩

end Sweep

namespace CommandLine

open Sweep (NeedsNoProbe needsNoProbe silent steady)
open Workspace (blank sinkFile)

theorem probeProgram_cases (a : Arguments) (f : SweepFile) (delays : List UInt64) :
    (probeBinary a f = none ∧ probeProgram a f delays = .ok none ∧
        ∀ d ∈ delays, d < f.probe.minDelay) ∨
      (probeBinary a f = none ∧ probeProgram a f delays = .error (.noProbe f.probe.minDelay) ∧
        ∃ d ∈ delays, f.probe.minDelay ≤ d) ∨
      (probeBinary a f ≠ none ∧ ∀ n, probeProgram a f delays ≠ .error (.noProbe n)) := by
  unfold probeProgram
  cases probeBinary a f with
  | none =>
    dsimp only
    by_cases hd : delays.any fun d => decide (f.probe.minDelay ≤ d)
    · exact .inr (.inl ⟨rfl, if_pos hd, by simpa using hd⟩)
    · exact .inl ⟨rfl, if_neg hd, by simpa using hd⟩
  | some binary =>
    refine .inr (.inr ⟨nofun, fun n => ?_⟩)
    dsimp only
    split <;> exact nofun

/--
The threshold means the same in all three places. A list of delays that is taken without a probe, or
that gets no column of its own, is swept without one; a list that is refused for want of a probe has
a delay that takes one.
-/
theorem thresholds_agree {σ : Type} (a : Arguments) (f : SweepFile) (delays : List UInt64) :
    ((probeBinary a f = none ∧ ∃ probe, probeProgram a f delays = .ok probe) ∨
        Schema.forDelays delays f.probe.minDelay = .withoutDelay →
      ∀ (h : Host σ) (m : Matrix) (resume : Bool) (memory : Memory) (world : σ),
        m.delays = delays → memory.calibrator.settings.minDelay = f.probe.minDelay →
          NeedsNoProbe h m resume memory world) ∧
    ∀ n, probeProgram a f delays = .error (.noProbe n) →
      ∃ d ∈ delays, ∀ (p : Probe σ) (k : Calibrator) (world : σ),
        k.settings.minDelay = f.probe.minDelay → d ∉ k.delays →
          (k.resolve p d world).probed = some (k.settings.request d) ∧
          (k.resolve p d world).world = (p (k.settings.request d) world).2 := by
  constructor
  · intro hdelays h m resume memory world hm hset
    have hbelow : ∀ d ∈ delays, d < f.probe.minDelay := by
      obtain ⟨hbinary, probe, hprobe⟩ | hlayout := hdelays
      · obtain ⟨-, -, hbelow⟩ | ⟨-, hrefused, -⟩ | ⟨hset, -⟩ := probeProgram_cases a f delays
        · exact hbelow
        · rw [hrefused] at hprobe
          cases hprobe
        · exact absurd hbinary hset
      · exact (Schema.forDelays_eq_withoutDelay_iff.mp hlayout).2
    rw [← hm, ← hset] at hbelow
    exact needsNoProbe h hbelow resume world
  · intro n hn
    obtain ⟨-, htaken, -⟩ | ⟨-, -, d, hd, hmin⟩ | ⟨-, hother⟩ := probeProgram_cases a f delays
    · rw [htaken] at hn
      cases hn
    · refine ⟨d, hd, fun p k world hset hnew => ?_⟩
      have hneeds : k.Needs d := ⟨hset ▸ UInt64.not_lt.mpr hmin, hnew⟩
      rw [Calibrator.resolve_of_unknown (Calibrator.known?_eq_none_iff.mpr hneeds)]
      exact ⟨rfl, rfl⟩
    · exact absurd hn (hother n)

theorem thresholds_agree_at_hundred :
    let h := Host.apart steady silent (sinkFile "out.csv")
    let m (delays : List UInt64) : Matrix := ⟨["A"], [⟨1, 1⟩], [64], delays, 1000, 2⟩
    let memory := Memory.fresh .standard .standard
    probeProgram .empty .standard [0, 99] = .ok none ∧
      NeedsNoProbe h (m [0, 99]) false memory (blank, ()) ∧
      Schema.forDelays [99, 99] 100 = .withoutDelay ∧
      NeedsNoProbe h (m [99, 99]) true memory (blank, ()) ∧
      probeProgram .empty .standard [0, 100] = .error (.noProbe 100) ∧
      ∃ d ∈ ([0, 100] : List UInt64),
        (memory.calibrator.resolve silent d ()).probed = some (memory.calibrator.settings.request d) := by
  intro h m memory
  have htaken : probeProgram .empty .standard [0, 99] = .ok none := rfl
  have hrefused : probeProgram .empty .standard [0, 100] = .error (.noProbe 100) := rfl
  have hlayout : Schema.forDelays [99, 99] 100 = .withoutDelay := by decide
  obtain ⟨d, hd, hprobed⟩ :=
    (thresholds_agree .empty .standard [0, 100]).2 100 hrefused
  exact ⟨htaken,
    (thresholds_agree .empty .standard [0, 99]).1 (.inl ⟨rfl, none, htaken⟩) h (m [0, 99]) false
      memory (blank, ()) rfl rfl,
    hlayout,
    (thresholds_agree .empty .standard [99, 99]).1 (.inr hlayout) h (m [99, 99]) true memory
      (blank, ()) rfl rfl,
    hrefused, d, hd, (hprobed silent memory.calibrator () rfl List.not_mem_nil).1⟩

end CommandLine

end CalibratedSweep
