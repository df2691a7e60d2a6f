import CalibratedSweep.Proofs.Sweep.Visit
/-!
The events of a sweep are what happened: every call was made in the state that the events before it
led to, and the outcome reported for a run is the worker's answer there.
-/

namespace CalibratedSweep.Sweep

structure Moment (σ : Type) where
  world : σ
  calibrator : Calibrator

inductive Happens {σ : Type} (h : Host σ) (s : Schema) (resume : Bool) :
    Event → Moment σ → Moment σ → Prop
  | validated (q : String) (m : Moment σ) :
    Happens h s resume (.validated q) m { m with world := (h.worker.validate q m.world).2 }
  | measured (c : Configuration) (k : Calibration) (bound : Duration) (m : Moment σ) :
    Happens h s resume (.measured c k bound (h.worker.measure c k bound m.world).1) m
      { m with world := (h.worker.measure c k bound m.world).2 }
  | probed {delay : UInt64} {m : Moment σ} (hnew : m.calibrator.known? delay = none) :
    Happens h s resume (.probed (m.calibrator.settings.request delay)) m
      ⟨(h.probe (m.calibrator.settings.request delay) m.world).2,
        { m.calibrator with results := m.calibrator.results ++ [(delay, Calibrator.interpret delay
          (h.probe (m.calibrator.settings.request delay) m.world).1)] }⟩
  | appended {r : Row} {m : Moment σ} {world : σ}
    (hw : Sink.writeRow h.sink s r m.world = (.ok (), world)) :
    Happens h s resume (.appended r) m { m with world }
  | opened {m : Moment σ} {world : σ} (ho : openSink h s resume m.world = (.ok (), world)) :
    Happens h s resume (.noticed .sweepStarted) m { m with world }
  | noticed {n : Notice} (hn : n ≠ .sweepStarted) (m : Moment σ) :
    Happens h s resume (.noticed n) m m

inductive Happened {σ : Type} (h : Host σ) (s : Schema) (resume : Bool) :
    List Event → Moment σ → Moment σ → Prop
  | nil (m : Moment σ) : Happened h s resume [] m m
  | cons {e : Event} {events : List Event} {m n o : Moment σ} (he : Happens h s resume e m n)
    (hs : Happened h s resume events n o) : Happened h s resume (e :: events) m o

variable {σ : Type} {h : Host σ} {s : Schema} {resume : Bool}

theorem Happened.single {e : Event} {m n : Moment σ} (he : Happens h s resume e m n) :
    Happened h s resume [e] m n :=
  .cons he (.nil n)

theorem Happened.append {a b : List Event} {m n o : Moment σ} (ha : Happened h s resume a m n)
    (hb : Happened h s resume b n o) : Happened h s resume (a ++ b) m o := by
  induction ha with
  | nil m => exact hb
  | cons he _ ih => exact .cons he (ih hb)

theorem Happened.split {a b : List Event} {m o : Moment σ} (hab : Happened h s resume (a ++ b) m o) :
    ∃ n, Happened h s resume a m n ∧ Happened h s resume b n o := by
  induction a generalizing m with
  | nil => exact ⟨m, .nil m, hab⟩
  | cons e a ih =>
    cases hab with
    | cons he hs =>
      obtain ⟨n, ha, hb⟩ := ih hs
      exact ⟨n, .cons he ha, hb⟩

theorem resolve_happened (h : Host σ) (s : Schema) (resume : Bool) (delay : UInt64) (m : Moment σ)
    {r : Calibrator.Resolution σ} (hr : m.calibrator.resolve h.probe delay m.world = r) :
    Happened h s resume (calibrationEvents delay r.probed r.result) m ⟨r.world, r.calibrator⟩ := by
  cases hk : m.calibrator.known? delay with
  | some result =>
    rw [Calibrator.resolve_of_known hk] at hr
    subst hr
    cases result <;> exact .nil m
  | none =>
    rw [Calibrator.resolve_of_unknown hk] at hr
    subst hr
    have hprobe : Happens h s resume (.probed (m.calibrator.settings.request delay)) m _ :=
      .probed hk
    dsimp only
    cases hi : Calibrator.interpret delay (h.probe (m.calibrator.settings.request delay) m.world).1 with
    | ok k =>
      rw [hi] at hprobe
      have hnotice : Notice.delayCalibrated delay k ≠ .sweepStarted := by simp
      exact .cons hprobe (.single (.noticed hnotice _))
    | error e =>
      rw [hi] at hprobe
      have hnotice : Notice.calibrationFailed delay e ≠ .sweepStarted := by simp
      exact .cons hprobe (.single (.noticed hnotice _))

theorem runNotice_happened (repetition : Nat) (c : Configuration) (o : Outcome) (m : Moment σ) :
    Happened h s resume (runNotice repetition c o) m m := by
  cases o with
  | success x => exact .nil m
  | failure code reason => exact .single (.noticed (by simp) m)
  | timeout bound => exact .single (.noticed (by simp) m)

theorem repeatRuns_happened (h : Host σ) (s : Schema) (resume : Bool) (c : Configuration)
    (k : Calibration) (bound : Duration) (repetition left : Nat) (n : Count) (m : Moment σ) :
    Happened h s resume (repeatRuns h.worker c k bound repetition left n m.world).1 m
      { m with world := (repeatRuns h.worker c k bound repetition left n m.world).2.2.2 } := by
  induction left generalizing repetition n m with
  | zero => exact .nil m
  | succ left ih =>
    have hfirst : Happened h s resume [.measured c k bound (h.worker.measure c k bound m.world).1] m
        { m with world := (h.worker.measure c k bound m.world).2 } :=
      .single (.measured c k bound m)
    rw [repeatRuns]
    dsimp only
    split
    · have hrest := ih (repetition + 1)
        ⟨n.summary.countRun (h.worker.measure c k bound m.world).1, n.progress.attempt⟩
        { m with world := (h.worker.measure c k bound m.world).2 }
      exact hfirst.append ((runNotice_happened repetition c _ _).append hrest)
    · exact hfirst.append (runNotice_happened repetition c _ _)

theorem Visit.happened {set : Setting} {c : Configuration} {a b : Walk σ} {events : List Event}
    (hv : Visit h set c a events b) (resume : Bool) :
    Happened h set.schema resume events ⟨a.world, a.memory.calibrator⟩
      ⟨b.world, b.memory.calibrator⟩ := by
  cases hv with
  | done hk hw hm =>
    rw [hw, hm]
    exact .nil _
  | uncalibrated hk hr he hw hm =>
    rw [hw, hm]
    exact (resolve_happened h _ resume c.delay ⟨a.world, a.memory.calibrator⟩ hr).append
      (.single (.noticed (by simp) _))
  | @incomplete hk r hr k hc n n' outcomes world hruns missing hrow p t hw hm =>
    have hrep := repeatRuns_happened h set.schema resume c k
      (a.memory.bounds.bound c.ops c.delay).1 1 set.runs.toNat n ⟨r.world, r.calibrator⟩
    rw [hruns] at hrep
    rw [hw, hm]
    have hfirst := resolve_happened h set.schema resume c.delay ⟨a.world, a.memory.calibrator⟩ hr
    refine (hfirst.append hrep).append ?_
    exact .cons (.noticed (by simp) _) (.single (.noticed (by simp) _))
  | @complete hk r hr k hc n n' outcomes world hruns row hrow p t hwrite hm =>
    have hrep := repeatRuns_happened h set.schema resume c k
      (a.memory.bounds.bound c.ops c.delay).1 1 set.runs.toNat n ⟨r.world, r.calibrator⟩
    rw [hruns] at hrep
    rw [hm]
    have hfirst := resolve_happened h set.schema resume c.delay ⟨a.world, a.memory.calibrator⟩ hr
    refine (hfirst.append hrep).append ?_
    exact .cons (.noticed (by simp) _) (.cons (.appended hwrite) (.cons (.noticed (by simp) _)
      (.single (.noticed (by simp) _))))

inductive Visits (h : Host σ) (set : Setting) :
    List Configuration → Walk σ → List (List Event) → Walk σ → Prop
  | nil (a : Walk σ) : Visits h set [] a [] a
  | cons {c : Configuration} {rest : List Configuration} {a b d : Walk σ} {block : List Event}
    {blocks : List (List Event)} (hv : Visit h set c a block b)
    (hs : Visits h set rest b blocks d) : Visits h set (c :: rest) a (block :: blocks) d

theorem Visits.happened {set : Setting} {cs : List Configuration} {a b : Walk σ}
    {blocks : List (List Event)} (hv : Visits h set cs a blocks b) (resume : Bool) :
    Happened h set.schema resume blocks.flatten ⟨a.world, a.memory.calibrator⟩
      ⟨b.world, b.memory.calibrator⟩ := by
  induction hv with
  | nil a => exact .nil _
  | cons hv _ ih => exact (hv.happened resume).append ih

theorem visits_of_eq_ok {set : Setting} {cs : List Configuration} {a b : Walk σ}
    {events : List Event} (hv : visitAll h set cs a = (events, .ok (), b)) :
    ∃ blocks, events = blocks.flatten ∧ Visits h set cs a blocks b := by
  induction cs generalizing a events with
  | nil =>
    cases hv
    exact ⟨[], rfl, .nil b⟩
  | cons c cs ih =>
    unfold visitAll at hv
    split at hv
    · cases hv
    · rename_i block t hc
      dsimp only at hv
      rcases hrest : visitAll h set cs t with ⟨later, result, d⟩
      rw [hrest] at hv
      cases hv
      obtain ⟨blocks, rfl, hs⟩ := ih hrest
      exact ⟨block :: blocks, rfl, .cons (visit_of_eq_ok hc) hs⟩

theorem validateQueues_happened (h : Host σ) (s : Schema) (resume : Bool) (queues : List String)
    (m : Moment σ) : Happened h s resume (validateQueues h.worker queues m.world).1 m
      { m with world := (validateQueues h.worker queues m.world).2.2 } := by
  induction queues generalizing m with
  | nil => exact .nil m
  | cons q queues ih =>
    have hfirst : Happens h s resume (.validated q) m _ := .validated q m
    rw [validateQueues]
    rcases hv : h.worker.validate q m.world with ⟨r, world⟩
    rw [hv] at hfirst
    have hrest := ih { m with world }
    cases r with
    | ok u => exact .cons hfirst (.cons (.noticed (by simp) _) hrest)
    | error r => exact .cons hfirst (.cons (.noticed (by simp) _) hrest)

theorem no_queue_rejected {w : Worker σ} (hw : ∀ q world, (w.validate q world).1 = .ok ())
    (queues : List String) (world : σ) : (validateQueues w queues world).2.1 = [] := by
  induction queues generalizing world with
  | nil => rfl
  | cons q queues ih =>
    have hq := hw q world
    rw [validateQueues]
    rcases hv : w.validate q world with ⟨_ | ⟨⟨⟩⟩, world'⟩ <;> rw [hv] at hq
    · cases hq
    · exact ih world'

def begun (m : Matrix) (memory : Memory) (world : σ) : Walk σ :=
  ⟨world, memory, .start m.plan.configurations.length, ⟨0, m.plan.totalRuns⟩, []⟩

def layout (m : Matrix) (memory : Memory) : Schema :=
  .forDelays m.delays memory.calibrator.settings.minDelay

def checked (h : Host σ) (m : Matrix) (world : σ) : σ := (validateQueues h.worker m.queues world).2.2

variable {m : Matrix} {memory : Memory} {world opened : σ} {completed : List RowKey}

theorem run_of_valid (hq : (validateQueues h.worker m.queues world).2.1 = []) :
    run h m resume memory world =
      match completedRows h (layout m memory) resume (checked h m world) with
      | .error e => ⟨(validateQueues h.worker m.queues world).1, .error (.sink e), memory,
          checked h m world⟩
      | .ok completed =>
        match openSink h (layout m memory) resume (checked h m world) with
        | (.error e, opened) => ⟨(validateQueues h.worker m.queues world).1, .error (.sink e), memory,
            opened⟩
        | (.ok (), opened) =>
          let r := sweepOpened h m memory ⟨layout m memory, m.runs, completed⟩ opened
          { r with events := (validateQueues h.worker m.queues world).1 ++ r.events } := by
  unfold run checked
  rcases hvalid : validateQueues h.worker m.queues world with ⟨checks, invalid, world'⟩
  rw [hvalid] at hq
  dsimp only at hq ⊢
  rw [hq, List.isEmpty_nil, if_pos rfl]
  rfl

theorem run_of_invalid (hq : (validateQueues h.worker m.queues world).2.1 ≠ []) :
    run h m resume memory world = ⟨(validateQueues h.worker m.queues world).1,
      .error (.invalidQueues ((validateQueues h.worker m.queues world).2.1.map Prod.fst)), memory,
      checked h m world⟩ := by
  have he : (validateQueues h.worker m.queues world).2.1.isEmpty = false := by simpa using hq
  unfold run checked
  dsimp only
  rw [he, if_neg Bool.false_ne_true]

theorem run_eq (hq : (validateQueues h.worker m.queues world).2.1 = [])
    (hc : completedRows h (layout m memory) resume (checked h m world) = .ok completed)
    (ho : openSink h (layout m memory) resume (checked h m world) = (.ok (), opened))
    {events : List Event} {b : Walk σ}
    (hv : visitAll h ⟨layout m memory, m.runs, completed⟩ m.plan.configurations
      (begun m memory opened) = (events, .ok (), b)) :
    run h m resume memory world =
      ⟨(validateQueues h.worker m.queues world).1 ++
          (.noticed .sweepStarted :: events ++ [.noticed .sweepFinished]),
        .ok ⟨b.summary, b.incomplete, b.memory.calibrator.entries, layout m memory⟩, b.memory,
        b.world⟩ := by
  unfold begun at hv
  rw [run_of_valid hq, hc]
  dsimp only
  rw [ho]
  simp only [sweepOpened, hv]

theorem ending_of_eq_ok {findings : Findings}
    (hok : (run h m resume memory world).result = .ok findings) :
    ∃ completed opened blocks b, (validateQueues h.worker m.queues world).2.1 = [] ∧
      completedRows h (layout m memory) resume (checked h m world) = .ok completed ∧
      openSink h (layout m memory) resume (checked h m world) = (.ok (), opened) ∧
      Visits h ⟨layout m memory, m.runs, completed⟩ m.plan.configurations (begun m memory opened)
        blocks b ∧
      run h m resume memory world = ⟨(validateQueues h.worker m.queues world).1 ++
          (.noticed .sweepStarted :: blocks.flatten ++ [.noticed .sweepFinished]),
        .ok ⟨b.summary, b.incomplete, b.memory.calibrator.entries, layout m memory⟩, b.memory,
        b.world⟩ := by
  by_cases hq : (validateQueues h.worker m.queues world).2.1 = []
  · cases hc : completedRows h (layout m memory) resume (checked h m world) with
    | error e =>
      rw [run_of_valid hq, hc] at hok
      cases hok
    | ok completed =>
      rcases ho : openSink h (layout m memory) resume (checked h m world) with ⟨_ | ⟨⟨⟩⟩, opened⟩
      · rw [run_of_valid hq, hc] at hok
        dsimp only at hok
        rw [ho] at hok
        cases hok
      · rcases hv : visitAll h ⟨layout m memory, m.runs, completed⟩ m.plan.configurations
          (begun m memory opened) with ⟨events, _ | ⟨⟨⟩⟩, b⟩
        · unfold begun at hv
          rw [run_of_valid hq, hc] at hok
          dsimp only at hok
          rw [ho] at hok
          simp only [sweepOpened, hv] at hok
          cases hok
        · rw [run_eq hq hc ho hv]
          obtain ⟨blocks, rfl, hs⟩ := visits_of_eq_ok hv
          exact ⟨completed, opened, blocks, b, hq, rfl, rfl, hs, rfl⟩
  · rw [run_of_invalid hq] at hok
    cases hok

theorem run_happened {findings : Findings}
    (hok : (run h m resume memory world).result = .ok findings) :
    Happened h (layout m memory) resume (run h m resume memory world).events
      ⟨world, memory.calibrator⟩
      ⟨(run h m resume memory world).world, (run h m resume memory world).memory.calibrator⟩ := by
  obtain ⟨completed, opened, blocks, b, -, -, ho, hv, hrun⟩ := ending_of_eq_ok hok
  rw [hrun]
  refine (validateQueues_happened h _ resume m.queues ⟨world, memory.calibrator⟩).append ?_
  have hend : Happened h (layout m memory) resume [.noticed .sweepFinished]
      ⟨b.world, b.memory.calibrator⟩ ⟨b.world, b.memory.calibrator⟩ :=
    .single (.noticed (by simp) _)
  exact .cons (.opened ho) ((hv.happened resume).append hend)

end CalibratedSweep.Sweep
