import CalibratedSweep.Proofs.Calibration.Needs
import CalibratedSweep.Proofs.Sweep.Refusal

namespace CalibratedSweep

def Event.request? : Event → Option Calibration.Request
  | .probed q => some q
  | _ => none

def Event.probedDelay? : Event → Option UInt64
  | .probed q => some q.delay
  | .noticed (.delayCalibrated delay _) => some delay
  | .noticed (.calibrationFailed delay _) => some delay
  | _ => none

namespace Sweep

variable {σ : Type}

theorem request?_calibrationEvents (delay : UInt64) (probed : Option Calibration.Request)
    (result : CalibrationResult) :
    (calibrationEvents delay probed result).filterMap Event.request? = probed.toList := by
  cases probed <;> cases result <;> rfl

theorem probedDelay?_runEvents {c : Configuration} {k : Calibration} {bound : Duration}
    {repetition : Nat} {outcomes : List Outcome} :
    ∀ e ∈ runEvents c k bound repetition outcomes, e.probedDelay? = none := by
  intro e he
  cases runEvents_runs c k bound repetition outcomes e he <;> rfl

theorem request?_of_probedDelay? {events : List Event} (h : ∀ e ∈ events, e.probedDelay? = none) :
    events.filterMap Event.request? = [] := by
  rw [List.filterMap_eq_nil_iff]
  intro e he
  have hnone := h e he
  cases e with
  | probed q => cases hnone
  | _ => rfl

/-- The runs of a configuration whose delay has the calibration `k`, and what they come to. -/
def settle (h : Host σ) (set : Setting) (c : Configuration) (k : Calibration)
    (a : Walk σ) : List Event × Except SinkError Unit × Walk σ :=
  let bound := a.memory.bounds.bound c.ops c.delay
  let r := repeatRuns h.worker c k bound.1 1 set.runs.toNat ⟨a.summary, a.progress⟩ a.world
  let last := conclude h set c r.2.1
    { a with
      world := r.2.2.2, memory := { a.memory with bounds := bound.2 }
      summary := r.2.2.1.summary, progress := r.2.2.1.progress }
  (r.1 ++ last.1, last.2)

def resolved (h : Host σ) (c : Configuration) (a : Walk σ) : Walk σ :=
  let r := a.memory.calibrator.resolve h.probe c.delay a.world
  { a with world := r.world, memory := { a.memory with calibrator := r.calibrator } }

theorem visit_eq (h : Host σ) (set : Setting) (c : Configuration) (a : Walk σ) :
    visit h set c a =
      if set.schema.keyOf (.ofConfiguration c set.runs) ∈ set.completed then
        ([], .ok (), skipDone set a)
      else
        let r := a.memory.calibrator.resolve h.probe c.delay a.world
        let events := calibrationEvents c.delay r.probed r.result
        match r.result with
        | .error e =>
          (events ++ [.noticed (.uncalibrated c e)], .ok (), skipUncalibrated set (resolved h c a))
        | .ok k =>
          let s := settle h set c k (resolved h c a)
          (events ++ s.1, s.2) := by
  unfold visit resolved
  split
  · rfl
  · dsimp only
    generalize a.memory.calibrator.resolve h.probe c.delay a.world = r
    cases r.result with
    | error e => rfl
    | ok k =>
      dsimp only [settle]
      rw [List.append_assoc]

theorem settle_plain (h : Host σ) (set : Setting) (c : Configuration) (k : Calibration)
    (a : Walk σ) :
    (∀ e ∈ (settle h set c k a).1, e.probedDelay? = none) ∧
      (settle h set c k a).2.2.memory.calibrator = a.memory.calibrator := by
  have hevents := (repeatRuns_events h.worker c k (a.memory.bounds.bound c.ops c.delay).1 1
    set.runs.toNat ⟨a.summary, a.progress⟩ a.world).1
  dsimp only [settle]
  rw [hevents]
  generalize repeatRuns h.worker c k (a.memory.bounds.bound c.ops c.delay).1 1 set.runs.toNat
    ⟨a.summary, a.progress⟩ a.world = r
  constructor
  · intro e he
    obtain he | he := List.mem_append.mp he
    · exact probedDelay?_runEvents e he
    · unfold conclude at he
      split at he
      · simp only [List.mem_cons, List.not_mem_nil, or_false] at he
        obtain rfl | rfl := he <;> rfl
      · dsimp only at he
        split at he <;> simp only [List.mem_cons, List.not_mem_nil, or_false] at he
        · rw [he]
          rfl
        · obtain rfl | rfl | rfl | rfl := he <;> rfl
  · unfold conclude
    split
    · rfl
    · dsimp only
      split <;> rfl

theorem probedDelay?_validateQueues (w : Worker σ) (queues : List String) (y : σ) :
    ∀ e ∈ (validateQueues w queues y).1, e.probedDelay? = none := by
  induction queues generalizing y with
  | nil => exact fun e he => absurd he List.not_mem_nil
  | cons q queues ih =>
    rw [validateQueues]
    rcases w.validate q y with ⟨_ | ⟨⟨⟩⟩, z⟩
    · exact List.forall_mem_cons.mpr ⟨rfl, List.forall_mem_cons.mpr ⟨rfl, ih z⟩⟩
    · exact List.forall_mem_cons.mpr ⟨rfl, List.forall_mem_cons.mpr ⟨rfl, ih z⟩⟩

section Delays

variable (h : Host σ) (set : Setting)

def probings (events : List Event) : List UInt64 :=
  (events.filterMap Event.request?).map Calibration.Request.delay

theorem probings_append (events later : List Event) :
    probings (events ++ later) = probings events ++ probings later := by
  rw [probings, List.filterMap_append, List.map_append]
  rfl

theorem delays_visit (c : Configuration) (a : Walk σ) :
    (visit h set c a).2.2.memory.calibrator.delays =
      a.memory.calibrator.delays ++ probings (visit h set c a).1 := by
  have hresolve := a.memory.calibrator.delays_resolve h.probe c.delay a.world
  rw [visit_eq]
  split
  · exact (List.append_nil _).symm
  · dsimp only
    have hfirst := request?_calibrationEvents c.delay
      (a.memory.calibrator.resolve h.probe c.delay a.world).probed
      (a.memory.calibrator.resolve h.probe c.delay a.world).result
    split
    · rw [probings_append, probings, hfirst]
      exact hresolve.trans (congrArg _ (List.append_nil _).symm)
    · rename_i k _
      obtain ⟨hplain, hcalibrator⟩ := settle_plain h set c k (resolved h c a)
      have hnone := request?_of_probedDelay? hplain
      dsimp only
      rw [probings_append, probings, probings, hfirst, hnone, hcalibrator]
      exact hresolve.trans (congrArg _ (List.append_nil _).symm)

theorem delays_visitAll (cs : List Configuration) (a : Walk σ) :
    (visitAll h set cs a).2.2.memory.calibrator.delays =
      a.memory.calibrator.delays ++ probings (visitAll h set cs a).1 := by
  induction cs generalizing a with
  | nil => exact (List.append_nil _).symm
  | cons c cs ih =>
    have hfirst := delays_visit h set c a
    rw [visitAll]
    rcases hv : visit h set c a with ⟨events, _ | ⟨⟨⟩⟩, t⟩ <;> rw [hv] at hfirst
    · exact hfirst
    · dsimp only at hfirst ⊢
      rw [ih, hfirst, probings_append, List.append_assoc]

theorem delays_run (m : Matrix) (resume : Bool) (memory : Memory) (world : σ) :
    let r := run h m resume memory world
    r.memory.calibrator.delays = memory.calibrator.delays ++ probings r.events := by
  have hchecks : probings (validateQueues h.worker m.queues world).1 = [] := by
    rw [probings, request?_of_probedDelay? (probedDelay?_validateQueues h.worker m.queues world)]
    rfl
  have hkept : memory.calibrator.delays = memory.calibrator.delays ++
      probings (validateQueues h.worker m.queues world).1 := by
    rw [hchecks, List.append_nil]
  have hbegins := run_begins h m resume memory world
  generalize run h m resume memory world = r at hbegins ⊢
  cases hbegins with
  | rejected hq => exact hkept
  | unreadable hq hc => exact hkept
  | unopened hq hc ho => exact hkept
  | @opened hq keys hc t ho =>
    have hall := delays_visitAll h ⟨layout m memory, m.runs, keys⟩ m.plan.configurations
      (begun m memory t)
    unfold begun at hall
    dsimp only [sweepOpened] at hall ⊢
    rw [probings_append, hchecks, List.nil_append]
    split <;> rename_i hv <;> rw [hv] at hall
    · exact hall
    · rw [probings_append]
      exact hall.trans (congrArg _ (List.append_nil _).symm)

end Delays

/-- No delay is probed twice, and none that a result is there for. -/
theorem Happened.probings {h : Host σ} {s : Schema} {resume : Bool} {events : List Event}
    {m n : Moment σ} (hh : Happened h s resume events m n) :
    (probings events).Nodup ∧ ∀ delay ∈ probings events, m.calibrator.Needs delay := by
  induction hh with
  | nil m => exact ⟨.nil, fun delay hd => absurd hd List.not_mem_nil⟩
  | @cons e events m n o he hs ih =>
    cases he with
    | @probed delay m hnew =>
      have hneeds := Calibrator.known?_eq_none_iff.mp hnew
      obtain ⟨honce, hfresh⟩ := ih
      -- From here on there is a result for `delay`, so nothing later asks about it.
      have hlater : ∀ d ∈ Sweep.probings events, d ≠ delay ∧ m.calibrator.Needs d := by
        intro d hd
        obtain ⟨hmin, hd⟩ := hfresh d hd
        rw [Calibrator.delays, List.map_append, List.mem_append, not_or] at hd
        exact ⟨fun he => hd.2 (List.mem_singleton.mpr he), hmin, hd.1⟩
      exact ⟨List.nodup_cons.mpr ⟨fun hd => (hlater delay hd).1 rfl, honce⟩,
        List.forall_mem_cons.mpr ⟨hneeds, fun d hd => (hlater d hd).2⟩⟩
    | _ => exact ih

end Sweep

end CalibratedSweep
