import CalibratedSweep.Proofs.Sweep.Progress
import CalibratedSweep.Proofs.Sweep.WriteFailure

namespace CalibratedSweep

namespace Event

def missing? : Event → Option Incomplete
  | .noticed (.incomplete i) => some i
  | _ => none

def uncalibrated? : Event → Option (Configuration × Calibration.Error)
  | .noticed (.uncalibrated c e) => some (c, e)
  | _ => none

def failed? : Event → Option (UInt64 × Calibration.Error)
  | .noticed (.calibrationFailed delay e) => some (delay, e)
  | _ => none

def noticeAt? (level : Level) (e : Event) : Option Notice := e.notice?.filter (·.level = level)

def noticesAt (level : Level) (events : List Event) : List Notice :=
  events.filterMap (noticeAt? level)

def messagesAt (level : Level) (events : List Event) : List String :=
  (noticesAt level events).map Notice.text

theorem warnings_perm (events : List Event) :
    (noticesAt .warn events).Perm
      ((events.filterMap missing?).map Notice.incomplete ++
        (events.filterMap uncalibrated?).map (fun x => Notice.uncalibrated x.1 x.2) ++
        (events.filterMap failed?).map fun x => Notice.calibrationFailed x.1 x.2) := by
  induction events with
  | nil => exact .refl _
  | cons e events ih =>
    rw [noticesAt] at ih ⊢
    cases e with
    | noticed n =>
      cases n with
      | incomplete i => exact ih.cons _
      | uncalibrated c e =>
        exact (ih.cons (Notice.uncalibrated c e)).trans (List.perm_middle.symm.append_right _)
      | calibrationFailed d e =>
        exact (ih.cons (Notice.calibrationFailed d e)).trans List.perm_middle.symm
      | _ => exact ih
    | _ => exact ih

end Event

theorem Incomplete.text_names (i : Incomplete) :
    ∃ rest, i.text = i.configuration.text ++ ": " ++ rest := by
  unfold Incomplete.text
  cases i.firstProblem with
  | none => exact ⟨_, by simp only [String.append_assoc]; rfl⟩
  | some p => exact ⟨_, by simp only [String.append_assoc]; rfl⟩

def Call.complaint? (repetition : Nat) (call : Call) : Option Notice :=
  match call.outcome with
  | .success _ => none
  | .failure code reason => some (.runFailed repetition call.configuration (.failure code reason))
  | .timeout _ => some (.runTimedOut repetition call.configuration)

def complaints (repetition : Nat) : List Call → List Notice
  | [] => []
  | call :: calls => (call.complaint? repetition).toList ++ complaints (repetition + 1) calls

theorem length_complaints (repetition : Nat) (calls : List Call) :
    (complaints repetition calls).length =
      calls.countP Call.isFailed + calls.countP Call.isTimedOut := by
  induction calls generalizing repetition with
  | nil => rfl
  | cons call calls ih =>
    obtain ⟨c, k, bound, o⟩ := call
    rw [complaints, List.length_append, ih, List.countP_cons, List.countP_cons]
    cases o <;> simp [Call.complaint?, Call.isFailed, Call.isTimedOut, Outcome.isFailure,
      Outcome.isTimeout] <;> omega

namespace Sweep

open Event (noticeAt? noticesAt messagesAt)

theorem errors_runEvents (c : Configuration) (k : Calibration) (bound : Duration)
    (repetition : Nat) (outcomes : List Outcome) :
    (runEvents c k bound repetition outcomes).filterMap (noticeAt? .error) =
      complaints repetition (outcomes.map (.mk c k bound)) := by
  induction outcomes generalizing repetition with
  | nil => rfl
  | cons o outcomes ih =>
    have hnotice : (runNotice repetition c o).filterMap (noticeAt? .error) =
        ((Call.mk c k bound o).complaint? repetition).toList := by cases o <;> rfl
    have hcall : noticeAt? .error (.measured c k bound o) = none := rfl
    rw [runEvents, List.cons_append, List.filterMap_cons, hcall, List.filterMap_append, hnotice,
      ih (repetition + 1)]
    rfl

def fails (known : UInt64 → Option CalibrationResult) (delay : UInt64) : Bool :=
  match known delay with
  | some (.error _) => true
  | _ => false

section Told

variable {known : UInt64 → Option CalibrationResult} {c : Configuration} {fate : Fate}
  {events : List Event}

namespace Fate

theorem Told.missing (h : fate.Told known c events) :
    events.filterMap Event.missing? = fate.missing?.toList := by
  obtain ⟨last, hl, hlast⟩ := h.filterMap (f := Event.missing?) (fun _ he => by cases he <;> rfl)
    (fun _ he => by cases he <;> rfl)
  rw [hlast]
  cases hl <;> rfl

theorem Told.named (h : fate.Told known c events) :
    events.filterMap (fun e => e.missing?.map Incomplete.configuration) =
      if fate.missing?.isSome then [c] else [] := by
  rw [← List.map_filterMap, h.missing]
  obtain ⟨hp, hruns, hl⟩ := h
  cases hl with
  | incomplete calls hm p => exact congrArg (fun x => [x]) hm
  | _ => rfl

theorem Told.skipped (h : fate.Told known c events) :
    events.filterMap (fun e => e.uncalibrated?.map Prod.fst) =
      if fate.isUncalibrated then [c] else [] := by
  obtain ⟨last, hl, hlast⟩ := h.filterMap (f := fun e => e.uncalibrated?.map Prod.fst)
    (fun _ he => by cases he <;> rfl) (fun _ he => by cases he <;> rfl)
  rw [hlast]
  cases hl <;> rfl

theorem Told.flushed (h : fate.Told known c events) :
    events.filterMap Event.flushed? = fate.row?.toList := by
  obtain ⟨last, hl, hlast⟩ := h.filterMap (f := Event.flushed?) (fun _ he => by cases he <;> rfl)
    (fun _ he => by cases he <;> rfl)
  rw [hlast]
  cases hl <;> rfl

theorem Told.shown (h : fate.Told known c events) :
    events.filterMap (fun e => e.shown?.map Prod.fst) = if fate.isMeasured then [c] else [] := by
  obtain ⟨last, hl, hlast⟩ := h.filterMap (f := fun e => e.shown?.map Prod.fst)
    (fun _ he => by cases he <;> rfl) (fun _ he => by cases he <;> rfl)
  rw [hlast]
  cases hl <;> rfl

theorem Told.errors (h : fate.Told known c events) :
    noticesAt .error events = complaints 1 fate.calls := by
  obtain ⟨hp, hruns, hl⟩ := h
  rw [noticesAt, List.filterMap_append, List.filterMap_append,
    filterMap_calibrationEvents (fun _ he => by cases he <;> rfl), errors_runEvents, hruns]
  cases hl <;> exact List.append_nil _

theorem Told.failures (h : fate.Told known c events) :
    (events.filterMap Event.failed?).map Prod.fst = (probings events).filter (fails known) := by
  obtain ⟨probed, result, hp, hcalibration⟩ := h.calibration
  have hfailed := hcalibration (f := Event.failed?) (fun _ he => by cases he <;> rfl)
    (fun _ hl => by cases hl <;> rfl)
  have hrequests := hcalibration (f := Event.request?) (fun _ he => by cases he <;> rfl)
    (fun _ hl => by cases hl <;> rfl)
  rw [hfailed, probings, hrequests, request?_calibrationEvents]
  cases probed with
  | none => cases result <;> rfl
  | some q =>
    obtain ⟨hdelay, hknown⟩ := hp q rfl
    rw [← hdelay] at hknown
    cases result with
    | ok k =>
      have hfails : fails known q.delay = false := by rw [fails, hknown]
      simp [calibrationEvents, Event.failed?, hfails]
    | error e =>
      have hfails : fails known q.delay = true := by rw [fails, hknown]
      have hevents : (calibrationEvents c.delay (some q) (.error e)).filterMap Event.failed? =
          [(q.delay, e)] := by
        rw [hdelay]
        rfl
      simp [hevents, hfails]

end Fate

end Told

section Story

variable {known : UInt64 → Option CalibrationResult} {cs : List Configuration} {fates : List Fate}
  {events : List Event}

theorem Story.failures (hs : Story known cs fates events) :
    (events.filterMap Event.failed?).map Prod.fst = (probings events).filter (fails known) := by
  induction hs with
  | nil => rfl
  | cons ht _ ih =>
    rw [List.filterMap_append, List.map_append, ht.failures, ih, probings_append,
      List.filter_append]

theorem length_flatMap_complaints (fates : List Fate) :
    (fates.flatMap fun fate => complaints 1 fate.calls).length =
      (fates.flatMap Fate.calls).countP Call.isFailed +
        (fates.flatMap Fate.calls).countP Call.isTimedOut := by
  induction fates with
  | nil => rfl
  | cons fate fates ih =>
    rw [List.flatMap_cons, List.flatMap_cons, List.length_append, ih, length_complaints,
      List.countP_append, List.countP_append]
    omega

theorem length_comingTo {p : Fate → Bool} (hl : cs.length = fates.length) :
    (comingTo p cs fates).length = fates.countP p := by
  have hsnd : (cs.zip fates).map Prod.snd = fates := List.map_snd_zip (Nat.le_of_eq hl.symm)
  rw [comingTo, List.length_map, ← List.countP_eq_length_filter]
  conv_rhs => rw [← hsnd, List.countP_map]
  rfl

end Story

structure Logged (before : Calibrator) (known : UInt64 → Option CalibrationResult)
    (cs : List Configuration) (fates : List Fate) (f : Findings) (events : List Event) : Prop where
  warnings : (messagesAt .warn events).Perm
    (f.incomplete.map (fun i => "incomplete runs for " ++ i.text) ++
      List.replicate f.summary.calibrationSkipped
        "skipping configuration, delay not calibrated" ++
      List.replicate ((probings events).countP (fails known)) "calibration failed")
  incomplete : events.filterMap Event.missing? = f.incomplete
  named : f.incomplete.map Incomplete.configuration =
    comingTo (fun fate => fate.missing?.isSome) cs fates
  text : ∀ i ∈ f.incomplete, ∃ rest, i.text = i.configuration.text ++ ": " ++ rest
  skipped : (events.filterMap Event.uncalibrated?).map Prod.fst =
    comingTo Fate.isUncalibrated cs fates
  failed : (events.filterMap Event.failed?).map Prod.fst = (probings events).filter (fails known)
  once : (probings events).Nodup
  fresh : ∀ delay ∈ probings events, before.Needs delay
  calls : events.filterMap Event.call? = fates.flatMap Fate.calls
  errors : noticesAt .error events = fates.flatMap fun fate => complaints 1 fate.calls
  counted : (noticesAt .error events).length = f.summary.failedRepetitions + f.summary.timeouts
  rows : events.filterMap Event.announced? = fates.filterMap Fate.row?
  flushed : events.filterMap Event.flushed? = fates.filterMap Fate.row?
  written : (Event.log events).count "INFO row written" = f.summary.completed
  levels : ∀ threshold level : Level,
    (Event.logFrom threshold events).count (level.name ++ " " ++ "row written") =
      if threshold.rank ≤ level.rank ∧ (level = .info ∨ level = .debug) then f.summary.completed
      else 0
  progress : (events.filterMap Event.shown?).map Prod.fst = comingTo Fate.isMeasured cs fates
  lines : (Event.log events).filter Event.tellsProgress = (events.filterMap Event.shown?).map
    fun x => "INFO [" ++ x.1.queue ++ " p:" ++ toString x.1.threads.producers ++ " c:" ++
      toString x.1.threads.consumers ++ " size:" ++ toString x.1.capacity ++ " delay:" ++
      toString x.1.delay ++ "] " ++ toString x.2.step ++ "/" ++ toString x.2.total ++ " (" ++
      String.ofList (Decimal.fixed 2 (if x.2.total = 0 then 100.0
        else x.2.step.toFloat * 100.0 / x.2.total.toFloat)) ++ "%)"

theorem messages_perm (events : List Event) :
    (messagesAt .warn events).Perm
      ((events.filterMap Event.missing?).map (fun i => "incomplete runs for " ++ i.text) ++
        List.replicate (events.filterMap Event.uncalibrated?).length
          "skipping configuration, delay not calibrated" ++
        List.replicate (events.filterMap Event.failed?).length "calibration failed") := by
  have hperm := (Event.warnings_perm events).map Notice.text
  rw [List.map_append, List.map_append, List.map_map, List.map_map, List.map_map] at hperm
  have hskipped : (events.filterMap Event.uncalibrated?).map
      (Notice.text ∘ fun x => Notice.uncalibrated x.1 x.2) =
      List.replicate (events.filterMap Event.uncalibrated?).length
        "skipping configuration, delay not calibrated" := List.map_const'
  have hfailed : (events.filterMap Event.failed?).map 
      (Notice.text ∘ fun x => Notice.calibrationFailed x.1 x.2) =
      List.replicate (events.filterMap Event.failed?).length "calibration failed" :=
    List.map_const'
  rw [hskipped, hfailed] at hperm
  exact hperm

variable {σ : Type} {h : Host σ} {m : Matrix} {resume : Bool} {memory : Memory} {world : σ}

theorem logged_of_story {known : UInt64 → Option CalibrationResult} {cs : List Configuration}
    {fates : List Fate} {body events : List Event} {f : Findings} {before : Calibrator}
    (hs : Story known cs fates body) (hl : cs.length = fates.length)
    (hevents : ∀ {α : Type} {g : Event → Option α}, (∀ e : Event, e.Frames → g e = none) →
      events.filterMap g = body.filterMap g)
    (hmissing : f.incomplete = fates.filterMap Fate.missing?)
    (ht : Tally (.start cs.length) fates f.summary)
    (honce : (probings events).Nodup) (hfresh : ∀ delay ∈ probings events, before.Needs delay) :
    Logged before known cs fates f events := by
  have hincomplete : events.filterMap Event.missing? = f.incomplete := by
    rw [hevents fun _ he => by cases he <;> rfl, hs.filterMap Fate.Told.missing, hmissing]
  have hnamed : f.incomplete.map Incomplete.configuration =
      comingTo (fun fate => fate.missing?.isSome) cs fates := by
    rw [← hincomplete, List.map_filterMap, hevents fun _ he => by cases he <;> rfl]
    exact hs.comingTo Fate.Told.named
  have hskipped : (events.filterMap Event.uncalibrated?).map Prod.fst =
      comingTo Fate.isUncalibrated cs fates := by
    rw [List.map_filterMap, hevents fun _ he => by cases he <;> rfl]
    exact hs.comingTo Fate.Told.skipped
  have hfailed : (events.filterMap Event.failed?).map Prod.fst =
      (probings events).filter (fails known) := by
    rw [probings, hevents fun _ he => by cases he <;> rfl,
      hevents fun _ he => by cases he <;> rfl]
    exact hs.failures
  have herrors : noticesAt .error events = fates.flatMap fun fate => complaints 1 fate.calls := by
    rw [noticesAt, hevents fun _ he => by cases he <;> rfl]
    exact hs.flatMap Fate.Told.errors
  have hrows : events.filterMap Event.announced? = fates.filterMap Fate.row? := by
    rw [hevents fun _ he => by cases he <;> rfl]
    exact hs.filterMap Fate.Told.announced
  have hflushed : events.filterMap Event.flushed? = fates.filterMap Fate.row? := by
    rw [hevents fun _ he => by cases he <;> rfl]
    exact hs.filterMap Fate.Told.flushed
  have hcompleted : (fates.filterMap Fate.row?).length = f.summary.completed :=
    (ht.completed.trans (Nat.zero_add _)).symm
  have hwarnings := messages_perm events
  have hskips : (events.filterMap Event.uncalibrated?).length = f.summary.calibrationSkipped := by
    rw [← List.length_map, hskipped, length_comingTo hl, ht.calibrationSkipped]
    exact (Nat.zero_add _).symm
  have hfailures : (events.filterMap Event.failed?).length =
      (probings events).countP (fails known) := by
    rw [← List.length_map, hfailed, List.countP_eq_length_filter]
  rw [hincomplete, hskips, hfailures] at hwarnings
  exact {
    warnings := hwarnings
    incomplete := hincomplete
    named := hnamed
    text := fun i _ => i.text_names
    skipped := hskipped
    failed := hfailed
    once := honce
    fresh := hfresh
    calls := by rw [hevents fun _ he => by cases he <;> rfl, hs.calls]
    errors := herrors
    counted := by
      rw [herrors, length_flatMap_complaints, ht.failedRepetitions, ht.timeouts]
      exact (congrArg₂ Nat.add (Nat.zero_add _) (Nat.zero_add _)).symm
    rows := hrows
    flushed := hflushed
    written := by rw [Event.count_log, hrows, hcompleted]
    levels := fun threshold level => by
      rw [Event.count_row_written]
      cases level <;> simp [Event.written?, hrows, hflushed, hcompleted]
    progress := by
      rw [List.map_filterMap, hevents fun _ he => by cases he <;> rfl]
      exact hs.comingTo Fate.Told.shown
    lines := by
      rw [Event.filter_tellsProgress]
      exact List.map_congr_left fun x _ => Notice.logLine_progress x.1 x.2 }

/--
Whatever a sweep that ends well meets, its log warns once of each configuration without a row, once
of each one left out for its delay, and once of each delay that it probed in vain; it has one error
for each run without a score, and a row or a line of progress for each configuration that came to it.
Each level that tells of written rows at all tells of each of them once: the sweep does so for
information, and the sink for debugging.
-/
theorem run_logged {findings : Findings}
    (hok : (run h m resume memory world).result = .ok findings) :
    let r := run h m resume memory world
    ∃ completed fates,
      completedRows h (layout m memory) resume (checked h m world) = .ok completed ∧
      List.Forall₂ (Fate.Of ⟨layout m memory, m.runs, completed⟩ r.memory.calibrator.known?)
        m.plan.configurations fates ∧
      Happened h (layout m memory) resume r.events ⟨world, memory.calibrator⟩
        ⟨r.world, r.memory.calibrator⟩ ∧
      Tally (.start m.plan.configurations.length) fates findings.summary ∧
      Logged memory.calibrator r.memory.calibrator.known? m.plan.configurations fates findings
        r.events := by
  dsimp only
  have hhappened := run_happened hok
  have hprobings := hhappened.probings
  obtain ⟨completed, opened, blocks, b, hq, hc, ho, hv, hrun⟩ := ending_of_eq_ok hok
  obtain ⟨fates, hfates, hstory, hmissing, htally⟩ := hv.story
  rw [hrun] at hok hhappened hprobings ⊢
  cases hok
  refine ⟨completed, fates, hc, hfates, hhappened, htally, ?_⟩
  exact logged_of_story hstory hfates.length_eq
    (fun hf => filterMap_sweep hq hf blocks.flatten) hmissing htally hprobings.1 hprobings.2

theorem run_logged_flaky :
    let m : Matrix := ⟨["A", "B"], [⟨1, 1⟩], [64], [0, 100], 1000, 3⟩
    let memory := Memory.fresh .standard .standard
    let r := run (.apart flaky silent sieve) m false memory ((), ())
    messagesAt .warn r.events = ["calibration failed", "skipping configuration, delay not calibrated",
      "incomplete runs for [B p:1 c:1 size:64 items:1000 delay:0ns]: 0/3 repetitions succeeded (1 " ++
        "failed, 0 timed out), first problem: repetition 1: exit code 1: refused",
      "skipping configuration, delay not calibrated"] ∧
    messagesAt .error r.events = ["Error in run 1 for queue B p:1 c:1: exit code 1: refused"] ∧
    ∃ findings fates, r.result = .ok findings ∧
      Logged memory.calibrator r.memory.calibrator.known? m.plan.configurations fates findings
        r.events := by
  intro m memory r
  refine ⟨by decide +kernel, by decide +kernel, ?_⟩
  have hok : ∃ findings, r.result = .ok findings := ⟨_, rfl⟩
  obtain ⟨findings, hok⟩ := hok
  obtain ⟨completed, fates, -, -, -, -, hlogged⟩ := run_logged hok
  exact ⟨findings, fates, hok, hlogged⟩

end Sweep

end CalibratedSweep
