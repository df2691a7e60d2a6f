import CalibratedSweep.Proofs.Sweep.Trace
import Mathlib.Data.List.Forall2
/-!
The events of a sweep fall into one block for each configuration of the plan. A block has the calls
for its configuration in front and its row, if there is one, behind them.
-/

namespace CalibratedSweep

structure Call where
  configuration : Configuration
  calibration : Calibration
  bound : Duration
  outcome : Outcome

def Event.call? : Event → Option Call
  | .measured c k bound o => some ⟨c, k, bound, o⟩
  | _ => none

def Event.row? : Event → Option Row
  | .appended r => some r
  | _ => none

namespace Event

/-- What happens around the visits of a sweep whose queues are all accepted. -/
inductive Frames : Event → Prop
  | validated (q : String) : Frames (.validated q)
  | accepted (q : String) : Frames (.noticed (.queueValidated q))
  | started : Frames (.noticed .sweepStarted)
  | finished : Frames (.noticed .sweepFinished)

inductive Calibrates : Event → Prop
  | probed (q : Calibration.Request) : Calibrates (.probed q)
  | calibrated (delay : UInt64) (k : Calibration) : Calibrates (.noticed (.delayCalibrated delay k))
  | failed (delay : UInt64) (e : Calibration.Error) :
    Calibrates (.noticed (.calibrationFailed delay e))

inductive Runs : Event → Prop
  | measured (c : Configuration) (k : Calibration) (bound : Duration) (o : Outcome) :
    Runs (.measured c k bound o)
  | failed (repetition : Nat) (c : Configuration) (o : Outcome) :
    Runs (.noticed (.runFailed repetition c o))
  | timedOut (repetition : Nat) (c : Configuration) : Runs (.noticed (.runTimedOut repetition c))

end Event

namespace Sweep

section Stages

variable {α : Type} {f : Event → Option α}

theorem validateQueues_frames {σ : Type} {w : Worker σ} {queues : List String} {world : σ}
    (hq : (validateQueues w queues world).2.1 = []) :
    ∀ e ∈ (validateQueues w queues world).1, e.Frames := by
  induction queues generalizing world with
  | nil => exact fun e he => absurd he List.not_mem_nil
  | cons q queues ih =>
    rw [validateQueues] at hq ⊢
    rcases hv : w.validate q world with ⟨_ | ⟨⟨⟩⟩, world'⟩ <;> rw [hv] at hq
    · cases hq
    · exact List.forall_mem_cons.mpr
        ⟨.validated q, List.forall_mem_cons.mpr ⟨.accepted q, ih hq⟩⟩

theorem calibrationEvents_calibrates (delay : UInt64) (probed : Option Calibration.Request)
    (result : CalibrationResult) : ∀ e ∈ calibrationEvents delay probed result, e.Calibrates := by
  intro e he
  cases probed with
  | none => cases result <;> exact absurd he List.not_mem_nil
  | some q =>
    cases result <;>
      simp only [calibrationEvents, List.mem_cons, List.not_mem_nil, or_false] at he
    · obtain rfl | rfl := he
      · exact .probed q
      · exact .failed delay _
    · obtain rfl | rfl := he
      · exact .probed q
      · exact .calibrated delay _

theorem runNotice_runs (repetition : Nat) (c : Configuration) (o : Outcome) :
    ∀ e ∈ runNotice repetition c o, e.Runs := by
  intro e he
  cases o with
  | success x => exact absurd he List.not_mem_nil
  | failure code reason =>
    rw [List.mem_singleton.mp he]
    exact .failed repetition c _
  | timeout bound =>
    rw [List.mem_singleton.mp he]
    exact .timedOut repetition c

theorem runEvents_runs (c : Configuration) (k : Calibration) (bound : Duration) (repetition : Nat)
    (outcomes : List Outcome) : ∀ e ∈ runEvents c k bound repetition outcomes, e.Runs := by
  induction outcomes generalizing repetition with
  | nil => exact fun e he => absurd he List.not_mem_nil
  | cons o outcomes ih =>
    intro e he
    rw [runEvents, List.cons_append, List.mem_cons, List.mem_append] at he
    obtain rfl | he | he := he
    · exact .measured c k bound o
    · exact runNotice_runs repetition c o e he
    · exact ih (repetition + 1) e he

theorem filterMap_sweep {σ : Type} {w : Worker σ} {queues : List String} {world : σ}
    (hq : (validateQueues w queues world).2.1 = []) (hf : ∀ e : Event, e.Frames → f e = none)
    (events : List Event) :
    ((validateQueues w queues world).1 ++
        (Event.noticed .sweepStarted :: events ++ [Event.noticed .sweepFinished])).filterMap f =
      events.filterMap f := by
  have hchecks : (validateQueues w queues world).1.filterMap f = [] :=
    List.filterMap_eq_nil_iff.mpr fun e he => hf e (validateQueues_frames hq e he)
  rw [List.filterMap_append, List.filterMap_append, List.filterMap_cons, hchecks, hf _ .started,
    List.filterMap_cons, hf _ .finished]
  exact List.append_nil _

theorem filterMap_calibrationEvents (hf : ∀ e : Event, e.Calibrates → f e = none) (delay : UInt64)
    (probed : Option Calibration.Request) (result : CalibrationResult) :
    (calibrationEvents delay probed result).filterMap f = [] :=
  List.filterMap_eq_nil_iff.mpr fun e he =>
    hf e (calibrationEvents_calibrates delay probed result e he)

theorem filterMap_runEvents (hf : ∀ e : Event, e.Runs → f e = none) (c : Configuration)
    (k : Calibration) (bound : Duration) (repetition : Nat) (outcomes : List Outcome) :
    (runEvents c k bound repetition outcomes).filterMap f = [] :=
  List.filterMap_eq_nil_iff.mpr fun e he => hf e (runEvents_runs c k bound repetition outcomes e he)

end Stages

/-- The events of one configuration; `known` has the calibrations. -/
inductive Block (set : Setting) (policy : TimeBound.Policy)
    (known : UInt64 → Option CalibrationResult) (c : Configuration) : List Event → Prop
  | done (hk : set.schema.keyOf (.ofConfiguration c set.runs) ∈ set.completed) :
    Block set policy known c []
  | uncalibrated (hk : set.schema.keyOf (.ofConfiguration c set.runs) ∉ set.completed)
      {e : Calibration.Error} (hc : known c.delay = some (.error e))
      {probed : Option Calibration.Request} (hp : ∀ q, probed = some q → q.delay = c.delay) :
      Block set policy known c
        (calibrationEvents c.delay probed (.error e) ++ [.noticed (.uncalibrated c e)])
  | incomplete (hk : set.schema.keyOf (.ofConfiguration c set.runs) ∉ set.completed)
      {k : Calibration} (hc : known c.delay = some (.ok k)) {probed : Option Calibration.Request}
      (hp : ∀ q, probed = some q → q.delay = c.delay) {scores : List Float} {bad : Outcome}
      (hl : scores.length < set.runs.toNat)
      (hb : bad.isSuccess = false) (missing : Incomplete) (p : Progress) :
      Block set policy known c
        (calibrationEvents c.delay probed (.ok k) ++
          runEvents c k (policy.bound c.ops c.delay) 1 (scores.map .success ++ [bad]) ++
          [.noticed (.incomplete missing), .noticed (.progress c p)])
  | complete (hk : set.schema.keyOf (.ofConfiguration c set.runs) ∉ set.completed)
      {k : Calibration} (hc : known c.delay = some (.ok k)) {probed : Option Calibration.Request}
      (hp : ∀ q, probed = some q → q.delay = c.delay) {scores : List Float}
      (hl : scores.length = set.runs.toNat) (p : Progress) :
      Block set policy known c
        (calibrationEvents c.delay probed (.ok k) ++
          runEvents c k (policy.bound c.ops c.delay) 1 (scores.map .success) ++
          [.noticed (.rowWritten (rowOf c set.runs scores)), .appended (rowOf c set.runs scores),
            .noticed (.rowFlushed (rowOf c set.runs scores)), .noticed (.progress c p)])

variable {σ : Type} {h : Host σ} {set : Setting} {policy : TimeBound.Policy}
  {known : UInt64 → Option CalibrationResult} {c : Configuration}

theorem Visit.grows {a b : Walk σ} {events : List Event} (hv : Visit h set c a events b) :
    a.memory.calibrator.Grows b.memory.calibrator := by
  cases hv with
  | done hk hw hm => rw [hm]; exact .refl _
  | uncalibrated hk hr he hw hm =>
    rw [hm, ← hr]
    exact (a.memory.calibrator.resolve_grows h.probe c.delay a.world).1
  | incomplete hk hr hc hruns hrow p hw hm =>
    rw [hm, ← hr]
    exact (a.memory.calibrator.resolve_grows h.probe c.delay a.world).1
  | complete hk hr hc hruns hrow p hwrite hm =>
    rw [hm, ← hr]
    exact (a.memory.calibrator.resolve_grows h.probe c.delay a.world).1

theorem Visit.sound {a b : Walk σ} {events : List Event} (hv : Visit h set c a events b)
    (hs : a.memory.bounds.Sound policy) : b.memory.bounds.Sound policy := by
  cases hv with
  | done hk hw hm => rw [hm]; exact hs
  | uncalibrated hk hr he hw hm => rw [hm]; exact hs
  | incomplete hk hr hc hruns hrow p hw hm => rw [hm]; exact (hs.bound c.ops c.delay).2
  | complete hk hr hc hruns hrow p hwrite hm => rw [hm]; exact (hs.bound c.ops c.delay).2

theorem Visit.block {a b : Walk σ} {events : List Event} (hv : Visit h set c a events b)
    (hs : a.memory.bounds.Sound policy) {l : Calibrator} (hg : b.memory.calibrator.Grows l) :
    Block set policy l.known? c events := by
  have hknown := (a.memory.calibrator.resolve_grows h.probe c.delay a.world).2
  have hprobed (q : Calibration.Request)
      (hq : (a.memory.calibrator.resolve h.probe c.delay a.world).probed = some q) :
      q.delay = c.delay := Calibrator.delay_of_probed hq
  cases hv with
  | done hk hw hm => exact .done hk
  | uncalibrated hk hr he hw hm =>
    rw [hr] at hprobed
    rw [hr, he] at hknown
    rw [hm] at hg
    rw [he]
    exact .uncalibrated hk (hg.2 _ _ hknown) hprobed
  | @incomplete hk r hr k hc n n' outcomes world hruns missing hrow p t hw hm =>
    rw [hr] at hprobed
    rw [hr, hc] at hknown
    rw [hm] at hg
    obtain ⟨scores, bad, hl, hb, rfl⟩ := (stopped_of_repeatRuns hruns).of_reduce_eq_error hrow
    rw [hc, (hs.bound c.ops c.delay).1]
    exact .incomplete hk (hg.2 _ _ hknown) hprobed hl hb missing p
  | @complete hk r hr k hc n n' outcomes world hruns row hrow p t hwrite hm =>
    rw [hr] at hprobed
    rw [hr, hc] at hknown
    rw [hm] at hg
    obtain ⟨scores, hl, rfl, rfl⟩ := (stopped_of_repeatRuns hruns).of_reduce_eq_ok hrow
    rw [hc, (hs.bound c.ops c.delay).1]
    exact .complete hk (hg.2 _ _ hknown) hprobed hl p

theorem Visits.grows {cs : List Configuration} {a b : Walk σ} {blocks : List (List Event)}
    (hv : Visits h set cs a blocks b) : a.memory.calibrator.Grows b.memory.calibrator := by
  induction hv with
  | nil a => exact .refl _
  | cons hv _ ih => exact hv.grows.trans ih

theorem Visits.blocks {cs : List Configuration} {a b : Walk σ} {blocks : List (List Event)}
    (hv : Visits h set cs a blocks b) (hs : a.memory.bounds.Sound policy) :
    List.Forall₂ (Block set policy b.memory.calibrator.known?) cs blocks := by
  induction hv with
  | nil a => exact .nil
  | cons hv hrest ih => exact .cons (hv.block hs hrest.grows) (ih (hv.sound hs))

theorem call?_calibrationEvents (delay : UInt64) (probed : Option Calibration.Request)
    (result : CalibrationResult) :
    (calibrationEvents delay probed result).filterMap Event.call? = [] ∧
      (calibrationEvents delay probed result).filterMap Event.row? = [] := by
  cases probed <;> cases result <;> exact ⟨rfl, rfl⟩

theorem call?_runNotice (repetition : Nat) (c : Configuration) (o : Outcome) :
    (runNotice repetition c o).filterMap Event.call? = [] ∧
      (runNotice repetition c o).filterMap Event.row? = [] := by
  cases o <;> exact ⟨rfl, rfl⟩

theorem call?_runEvents (c : Configuration) (k : Calibration) (bound : Duration) (repetition : Nat)
    (outcomes : List Outcome) :
    (runEvents c k bound repetition outcomes).filterMap Event.call? =
        outcomes.map (Call.mk c k bound) ∧
      (runEvents c k bound repetition outcomes).filterMap Event.row? = [] := by
  induction outcomes generalizing repetition with
  | nil => exact ⟨rfl, rfl⟩
  | cons o outcomes ih =>
    have hnotice := call?_runNotice repetition c o
    have hrest := ih (repetition + 1)
    constructor
    · simp only [runEvents, List.cons_append, List.filterMap_cons, Event.call?, hnotice.1, hrest.1,
        List.filterMap_append, List.nil_append, List.map_cons]
    · simp only [runEvents, List.cons_append, List.filterMap_cons, Event.row?, hnotice.2, hrest.2,
        List.filterMap_append, List.nil_append]

theorem call?_block (c : Configuration) (probed : Option Calibration.Request)
    (result : CalibrationResult) (k : Calibration) (bound : Duration) (outcomes : List Outcome)
    (rest : List Event) :
    let events := calibrationEvents c.delay probed result ++ runEvents c k bound 1 outcomes ++ rest
    events.filterMap Event.call? =
        outcomes.map (Call.mk c k bound) ++ rest.filterMap Event.call? ∧
      events.filterMap Event.row? = rest.filterMap Event.row? := by
  obtain ⟨hcall, hrow⟩ := call?_calibrationEvents c.delay probed result
  obtain ⟨hcall', hrow'⟩ := call?_runEvents c k bound 1 outcomes
  dsimp only
  constructor
  · rw [List.filterMap_append, List.filterMap_append, hcall, hcall', List.nil_append]
  · rw [List.filterMap_append, List.filterMap_append, hrow, hrow', List.nil_append, List.nil_append]

structure Part where
  calls : List Call
  row : Option Row

inductive Part.Of (set : Setting) (policy : TimeBound.Policy)
    (known : UInt64 → Option CalibrationResult) (c : Configuration) : Part → Prop
  | done (hk : set.schema.keyOf (.ofConfiguration c set.runs) ∈ set.completed) :
    Part.Of set policy known c ⟨[], none⟩
  | uncalibrated (hk : set.schema.keyOf (.ofConfiguration c set.runs) ∉ set.completed)
      {e : Calibration.Error} (hc : known c.delay = some (.error e)) :
      Part.Of set policy known c ⟨[], none⟩
  | incomplete (hk : set.schema.keyOf (.ofConfiguration c set.runs) ∉ set.completed)
      {k : Calibration} (hc : known c.delay = some (.ok k)) {scores : List Float} {bad : Outcome}
      (hl : scores.length < set.runs.toNat) (hb : bad.isSuccess = false) :
      Part.Of set policy known c
        ⟨(scores.map Outcome.success ++ [bad]).map (.mk c k (policy.bound c.ops c.delay)), none⟩
  | complete (hk : set.schema.keyOf (.ofConfiguration c set.runs) ∉ set.completed)
      {k : Calibration} (hc : known c.delay = some (.ok k)) {scores : List Float}
      (hl : scores.length = set.runs.toNat) {row : Row} (hrow : row.Averages c set.runs scores) :
      Part.Of set policy known c
        ⟨(scores.map Outcome.success).map (.mk c k (policy.bound c.ops c.delay)), some row⟩

theorem Block.part {events : List Event} (hb : Block set policy known c events) :
    ∃ part, Part.Of set policy known c part ∧ events.filterMap Event.call? = part.calls ∧
      events.filterMap Event.row? = part.row.toList := by
  cases hb with
  | done hk => exact ⟨_, .done hk, rfl, rfl⟩
  | @uncalibrated hk e hc probed hp =>
    obtain ⟨hcall, hrow⟩ := call?_calibrationEvents c.delay probed (.error e)
    refine ⟨_, .uncalibrated hk hc, ?_, ?_⟩
    · rw [List.filterMap_append, hcall]; rfl
    · rw [List.filterMap_append, hrow]; rfl
  | @incomplete hk k hc probed hp scores bad hl hb missing p =>
    obtain ⟨hcall, hrow⟩ := call?_block c probed (.ok k) k (policy.bound c.ops c.delay)
      (scores.map .success ++ [bad]) [.noticed (.incomplete missing), .noticed (.progress c p)]
    refine ⟨_, .incomplete hk hc hl hb, ?_, hrow⟩
    rw [hcall]
    exact List.append_nil _
  | @complete hk k hc probed hp scores hl p =>
    obtain ⟨hcall, hrow⟩ := call?_block c probed (.ok k) k (policy.bound c.ops c.delay)
      (scores.map .success) [.noticed (.rowWritten (rowOf c set.runs scores)),
        .appended (rowOf c set.runs scores), .noticed (.rowFlushed (rowOf c set.runs scores)),
        .noticed (.progress c p)]
    refine ⟨_, .complete hk hc hl (Row.averages c set.runs scores), ?_, hrow⟩
    rw [hcall]
    exact List.append_nil _

theorem parts_of_blocks {cs : List Configuration} {blocks : List (List Event)}
    (hb : List.Forall₂ (Block set policy known) cs blocks) :
    ∃ parts, List.Forall₂ (Part.Of set policy known) cs parts ∧
      blocks.flatten.filterMap Event.call? = parts.flatMap Part.calls ∧
      blocks.flatten.filterMap Event.row? = parts.filterMap Part.row := by
  induction hb with
  | nil => exact ⟨[], .nil, rfl, rfl⟩
  | @cons c block cs blocks hb _ ih =>
    obtain ⟨part, hpart, hcalls, hrow⟩ := hb.part
    obtain ⟨parts, hparts, hcalls', hrow'⟩ := ih
    refine ⟨part :: parts, .cons hpart hparts, ?_, ?_⟩
    · rw [List.flatten_cons, List.filterMap_append, hcalls, hcalls', List.flatMap_cons]
    · rw [List.flatten_cons, List.filterMap_append, hrow, hrow']
      obtain ⟨calls, _ | r⟩ := part <;> rfl

theorem call?_validateQueues (w : Worker σ) (queues : List String) (world : σ) :
    (validateQueues w queues world).1.filterMap Event.call? = [] ∧
      (validateQueues w queues world).1.filterMap Event.row? = [] := by
  induction queues generalizing world with
  | nil => exact ⟨rfl, rfl⟩
  | cons q queues ih =>
    rw [validateQueues]
    rcases w.validate q world with ⟨_ | _, world'⟩ <;> exact ih world'

theorem call?_run (w : Worker σ) (queues : List String) (world : σ) (events : List Event) :
    let all := (validateQueues w queues world).1 ++
      (.noticed .sweepStarted :: events ++ [.noticed .sweepFinished])
    all.filterMap Event.call? = events.filterMap Event.call? ∧
      all.filterMap Event.row? = events.filterMap Event.row? := by
  obtain ⟨hcall, hrow⟩ := call?_validateQueues w queues world
  dsimp only
  constructor
  · simp only [List.filterMap_append, hcall, List.cons_append, List.filterMap_cons,
      List.filterMap_nil, List.append_nil, List.nil_append, Event.call?]
  · simp only [List.filterMap_append, hrow, List.cons_append, List.filterMap_cons,
      List.filterMap_nil, List.append_nil, List.nil_append, Event.row?]

end Sweep

end CalibratedSweep
