import CalibratedSweep.Proofs.Sweep.Interruption

namespace CalibratedSweep

def Worker.validateAll {σ : Type} (w : Worker σ) :
    List String → σ → List (Except Rejection Unit) × σ
  | [], world => ([], world)
  | q :: rest, world =>
    let (answer, world) := w.validate q world
    let (answers, world) := validateAll w rest world
    (answer :: answers, world)

def rejectedQueues : List String → List (Except Rejection Unit) → List String
  | q :: queues, .error _ :: answers => q :: rejectedQueues queues answers
  | _ :: queues, .ok () :: answers => rejectedQueues queues answers
  | _, _ => []

def Event.queue? : Event → Option String
  | .validated q => some q
  | _ => none

/-- A file that could not be opened has what it had. -/
def SinkFile.KeepsUnopened {ρ : Type} (f : SinkFile ρ) : Prop :=
  ∀ ⦃mode : OpenMode⦄ ⦃x y : ρ⦄ ⦃e : OsError⦄ ⦃content : Bytes⦄, f.start mode x = (.error e, y) →
    f.view x = .ok (.file content) → f.view y = .ok (.file content)

theorem Workspace.keepsUnopened_sinkFile (path : String) : (sinkFile path).KeepsUnopened := by
  intro mode x y e content hs hv
  obtain ⟨t, ht, -⟩ := start_of_view hv mode
  have hok := hs.symm.trans ht
  cases hok

theorem validateQueues_eq {σ : Type} (w : Worker σ) (queues : List String) (world : σ) :
    let r := validateQueues w queues world
    let v := w.validateAll queues world
    r.1.filterMap Event.queue? = queues ∧ r.2.1.map Prod.fst = rejectedQueues queues v.1 ∧
      r.2.2 = v.2 := by
  induction queues generalizing world with
  | nil => exact ⟨rfl, rfl, rfl⟩
  | cons q queues ih =>
    dsimp only at ih ⊢
    rw [validateQueues, Worker.validateAll]
    rcases w.validate q world with ⟨_ | ⟨⟨⟩⟩, world'⟩
    · obtain ⟨hevents, hinvalid, hworld⟩ := ih world'
      exact ⟨congrArg (q :: ·) hevents, congrArg (q :: ·) hinvalid, hworld⟩
    · obtain ⟨hevents, hinvalid, hworld⟩ := ih world'
      exact ⟨congrArg (q :: ·) hevents, hinvalid, hworld⟩

namespace Sweep

open Workspace (blank sinkFile)

section Beginning

variable {σ : Type} (h : Host σ) (m : Matrix) (resume : Bool) (memory : Memory) (world : σ)

/-- How a sweep begins; only in the last case it comes to a visit. -/
inductive Beginning : Ending σ → Prop
  | rejected (hq : (validateQueues h.worker m.queues world).2.1 ≠ []) :
    Beginning ⟨(validateQueues h.worker m.queues world).1,
      .error (.invalidQueues ((validateQueues h.worker m.queues world).2.1.map Prod.fst)), memory,
      checked h m world⟩
  | unreadable (hq : (validateQueues h.worker m.queues world).2.1 = []) {e : SinkError}
      (hc : completedRows h (layout m memory) resume (checked h m world) = .error e) :
    Beginning ⟨(validateQueues h.worker m.queues world).1, .error (.sink e), memory,
      checked h m world⟩
  | unopened (hq : (validateQueues h.worker m.queues world).2.1 = []) {keys : List RowKey}
      (hc : completedRows h (layout m memory) resume (checked h m world) = .ok keys)
      {e : SinkError} {t : σ}
      (ho : openSink h (layout m memory) resume (checked h m world) = (.error e, t)) :
    Beginning ⟨(validateQueues h.worker m.queues world).1, .error (.sink e), memory, t⟩
  | opened (hq : (validateQueues h.worker m.queues world).2.1 = []) {keys : List RowKey}
      (hc : completedRows h (layout m memory) resume (checked h m world) = .ok keys) {t : σ}
      (ho : openSink h (layout m memory) resume (checked h m world) = (.ok (), t)) :
    Beginning { sweepOpened h m memory ⟨layout m memory, m.runs, keys⟩ t with
      events := (validateQueues h.worker m.queues world).1 ++
        (sweepOpened h m memory ⟨layout m memory, m.runs, keys⟩ t).events }

theorem run_begins : Beginning h m resume memory world (run h m resume memory world) := by
  by_cases hq : (validateQueues h.worker m.queues world).2.1 = []
  · rw [run_of_valid hq]
    cases hc : completedRows h (layout m memory) resume (checked h m world) with
    | error e => exact .unreadable hq hc
    | ok keys =>
      dsimp only
      rcases ho : openSink h (layout m memory) resume (checked h m world) with ⟨_ | ⟨⟨⟩⟩, t⟩
      · exact .unopened hq hc ho
      · exact .opened hq hc ho
  · rw [run_of_invalid hq]
    exact .rejected hq

theorem started_of_sweepOpened (set : Setting) :
    .noticed .sweepStarted ∈ (sweepOpened h m memory set world).events ∧
      ∀ queues, (sweepOpened h m memory set world).result ≠ .error (.invalidQueues queues) := by
  unfold sweepOpened
  dsimp only
  split <;> exact ⟨List.mem_cons_self, nofun⟩

end Beginning

inductive Step where
  | scan
  | check
  | start
  | header
  deriving DecidableEq

/-- The opening of a file in state `x` failed at a step, which leaves it in the last state. -/
inductive FailsAt {ρ : Type} (f : SinkFile ρ) (s : Schema) (resume : Bool) (x : ρ) (e : SinkError) :
    Step → ρ → Prop
  | scan (hr : resume = true) (hc : Sink.completed f s x = .error e) : FailsAt f s resume x e .scan x
  | check (hr : resume = true) {keys : List RowKey} (hc : Sink.completed f s x = .ok keys)
    (hn : Sink.needsHeader f s x = .error e) : FailsAt f s resume x e .check x
  | start (hc : resume = true → ∃ keys new, Sink.completed f s x = .ok keys ∧
      Sink.needsHeader f s x = .ok new) {y : ρ}
    (hs : Sink.start f (if resume then .append else .truncate) x = (.error e, y)) :
    FailsAt f s resume x e .start y
  | header (hc : resume = true → ∃ keys, Sink.completed f s x = .ok keys ∧
      Sink.needsHeader f s x = .ok true) {t y : ρ}
    (hs : Sink.start f (if resume then .append else .truncate) x = (.ok (), t))
    (hw : Sink.extend f (Sink.headerLine s) t = (.error e, y)) : FailsAt f s resume x e .header y

/-- Nothing was measured or probed, and nothing is remembered; the worker is left in state `y`. -/
structure Idle {ρ σ : Type} (r : Ending (ρ × σ)) (memory : Memory) (y : σ) : Prop where
  calls : ∀ e ∈ r.events, ¬e.IsCall
  memory : r.memory = memory
  state : r.world.2 = y

variable {ρ σ : Type} {w : Worker σ} {p : Probe σ} {f : SinkFile ρ} {s : Schema} {resume : Bool}
  {content : Bytes}

theorem start_of_eq_error {mode : OpenMode} {x y : ρ} {e : SinkError}
    (h : Sink.start f mode x = (.error e, y)) : ∃ e', f.start mode x = (.error e', y) := by
  unfold Sink.start at h
  split at h
  · cases h
  · rename_i e' _ hs
    cases h
    exact ⟨e', hs⟩

theorem failsAt_of_openFile {x y : ρ} {e : SinkError} {keys : List RowKey}
    (hc : (if resume then Sink.completed f s x else .ok []) = .ok keys)
    (ho : openFile f s resume x = (.error e, y)) : ∃ step, FailsAt f s resume x e step y := by
  cases resume with
  | false =>
    have hcreate : Sink.create f s x = (.error e, y) := ho
    unfold Sink.create at hcreate
    split at hcreate
    · rename_i hs
      cases hcreate
      exact ⟨_, .start (fun hr => absurd hr Bool.false_ne_true) hs⟩
    · rename_i t hs
      exact ⟨_, .header (fun hr => absurd hr Bool.false_ne_true) hs hcreate⟩
  | true =>
    have hkeys : Sink.completed f s x = .ok keys := hc
    have happend : Sink.append f s x = (.error e, y) := ho
    unfold Sink.append at happend
    split at happend
    · rename_i hn
      cases happend
      exact ⟨_, .check rfl hkeys hn⟩
    · rename_i new hn
      split at happend
      · rename_i hs
        cases happend
        exact ⟨_, .start (fun _ => ⟨keys, new, hkeys, hn⟩) hs⟩
      · rename_i t hs
        cases new with
        | false => cases happend
        | true => exact ⟨_, .header (fun _ => ⟨keys, hkeys, hn⟩) hs happend⟩

theorem FailsAt.kept {x y : ρ} {e : SinkError} {step : Step}
    (h : FailsAt f s resume x e step y) :
    (step = .scan ∨ step = .check → y = x) ∧ (step = .start → f.KeepsUnopened →
      ∀ content, f.view x = .ok (.file content) → f.view y = .ok (.file content)) := by
  cases h with
  | scan hr hc => exact ⟨fun _ => rfl, nofun⟩
  | check hr hc hn => exact ⟨fun _ => rfl, nofun⟩
  | start hc hs =>
    obtain ⟨e', hs'⟩ := start_of_eq_error hs
    exact ⟨by simp, fun _ hf _ hv => hf hs' hv⟩
  | header hc hs hw => exact ⟨by simp, nofun⟩

theorem openFile_of_openSink {x t : ρ × σ} {result : Except SinkError Unit}
    (ho : openSink (.apart w p f) s resume x = (result, t)) :
    openFile f s resume x.1 = (result, t.1) ∧ t.2 = x.2 := by
  rw [openSink_apart] at ho
  cases ho
  exact ⟨rfl, rfl⟩

theorem validateAll_apart (w : Worker σ) (p : Probe σ) (f : SinkFile ρ) (queues : List String)
    (x : ρ) (y : σ) : (Host.apart w p f).worker.validateAll queues (x, y) =
      ((w.validateAll queues y).1, (x, (w.validateAll queues y).2)) := by
  induction queues generalizing y with
  | nil => rfl
  | cons q queues ih =>
    have hq : (Host.apart w p f).worker.validate q (x, y) =
        ((w.validate q y).1, (x, (w.validate q y).2)) := rfl
    rw [Worker.validateAll, Worker.validateAll, hq]
    dsimp only
    rw [ih]

/--
A rejected queue ends a sweep after every queue of the list was tried, one after the other, with the
file as it was. A sink that fails before the first visit fails at one of its steps. The file is as it
was if it could not be read or has a foreign header, and it keeps its content if it could not be
opened; only a header that cannot be written leaves less. Either way there was no call.
-/
theorem refused_sweep (w : Worker σ) (p : Probe σ) (m : Matrix) (resume : Bool) (memory : Memory)
    (x : ρ) (y : σ) :
    let r := run (.apart w p f) m resume memory (x, y)
    let v := w.validateAll m.queues y
    (∀ queues, r.result = .error (.invalidQueues queues) →
      queues = rejectedQueues m.queues v.1 ∧ r.events.filterMap Event.queue? = m.queues ∧
        r.world.1 = x ∧ Idle r memory v.2) ∧
    ∀ e, r.result = .error (.sink e) → .noticed .sweepStarted ∉ r.events →
      ∃ step, FailsAt f (layout m memory) resume x e step r.world.1 ∧
        (step = .scan ∨ step = .check → r.world.1 = x) ∧
        (step = .start → f.KeepsUnopened → ∀ content, f.view x = .ok (.file content) →
          f.view r.world.1 = .ok (.file content)) ∧ Idle r memory v.2 := by
  dsimp only
  obtain ⟨hevents, hinvalid, hchecked⟩ :=
    validateQueues_eq (Host.apart w p f).worker m.queues (x, y)
  have hcalls := not_isCall_of_validateQueues (Host.apart w p f).worker m.queues (x, y)
  have hworld : checked (.apart w p f) m (x, y) = (x, (w.validateAll m.queues y).2) := by
    rw [checked, hchecked, validateAll_apart]
  rw [validateAll_apart] at hinvalid
  -- Before the first visit the events are those of the validation, and only opening touches the file.
  have hbegins := run_begins (.apart w p f) m resume memory (x, y)
  generalize run (.apart w p f) m resume memory (x, y) = r at hbegins ⊢
  cases hbegins with
  | rejected hq =>
    constructor
    · intro queues hr
      cases hr
      exact ⟨hinvalid, hevents, congrArg Prod.fst hworld, hcalls, rfl, congrArg Prod.snd hworld⟩
    · intro e hr
      cases hr
  | unreadable hq hc =>
    constructor
    · intro queues hr
      cases hr
    · intro e' hr _
      cases hr
      rw [hworld, completedRows_apart] at hc
      rw [hworld]
      cases resume with
      | false => cases hc
      | true => exact ⟨_, .scan rfl hc, fun _ => rfl, nofun, hcalls, rfl, rfl⟩
  | @unopened hq keys hc e t ho =>
    constructor
    · intro queues hr
      cases hr
    · intro e' hr _
      cases hr
      rw [hworld] at hc ho
      rw [completedRows_apart] at hc
      obtain ⟨hopen, hstate⟩ := openFile_of_openSink ho
      obtain ⟨step, hfails⟩ := failsAt_of_openFile hc hopen
      exact ⟨step, hfails, hfails.kept.1, hfails.kept.2, hcalls, rfl, hstate⟩
  | @opened hq keys hc t ho =>
    obtain ⟨hstarted, hresult⟩ := started_of_sweepOpened (.apart w p f) m memory t
      ⟨layout m memory, m.runs, keys⟩
    constructor
    · intro queues hr
      exact absurd hr (hresult queues)
    · intro e hr hnot
      exact absurd (List.mem_append_right _ hstarted) hnot

/-- A worker without a queue `"B"`; its state counts the queues it was asked about. -/
def choosy : Worker Nat where
  validate := fun q n =>
    (if q = "B" then .error ⟨some 2, "unknown queue"⟩ else .ok (), n + 1)
  measure := fun _ _ _ n => (.success 1, n)

def locked (content : Bytes) : SinkFile Unit where
  view := fun _ => .ok (.file content)
  start := fun _ x => (.error .permissionDenied, x)
  extend := fun _ x => (.ok (), x)

theorem refused_sweep_locked :
    let m (queues : List String) : Matrix := ⟨queues, [⟨1, 1⟩], [64], [0], 1000, 2⟩
    let p : Probe Nat := fun _ n => (.ok "", n)
    let f := locked (Sink.headerLine .withoutDelay)
    let r := run (.apart choosy p (sinkFile "out.csv")) (m ["A", "B", "C"]) true
      (.fresh .standard .standard) (blank, 0)
    let r' := run (.apart choosy p f) (m ["A", "C"]) false (.fresh .standard .standard) ((), 0)
    (sinkFile "out.csv").KeepsUnopened ∧ f.KeepsUnopened ∧
      r.result = .error (.invalidQueues ["B"]) ∧
      r.events.filterMap Event.queue? = ["A", "B", "C"] ∧ r.world.1 = blank ∧
      Idle r (.fresh .standard .standard) 3 ∧
      r'.result = .error (.sink (.io .permissionDenied)) ∧
      f.view r'.world.1 = .ok (.file (Sink.headerLine .withoutDelay)) ∧
      Idle r' (.fresh .standard .standard) 2 := by
  intro m p f r r'
  have hout := Workspace.keepsUnopened_sinkFile "out.csv"
  have hf : f.KeepsUnopened := by
    intro mode x y e content hs hv
    exact hv
  have hrejected : r.result = .error (.invalidQueues ["B"]) := rfl
  have hlocked : r'.result = .error (.sink (.io .permissionDenied)) := rfl
  have hevents : Event.noticed .sweepStarted ∉ r'.events :=
    unopened_validateQueues (Host.apart choosy p f).worker ["A", "C"] ((), 0)
  obtain ⟨-, hqueues, hblank, hidle⟩ := (refused_sweep choosy p (m ["A", "B", "C"]) true
    (.fresh .standard .standard) blank 0).1 _ hrejected
  obtain ⟨step, hfails, -, hview, hidle'⟩ := (refused_sweep choosy p (m ["A", "C"]) false
    (.fresh .standard .standard) () 0).2 _ hlocked hevents
  have hstep : step = .start := by
    cases hfails with
    | scan hr hc => cases hr
    | check hr hc hn => cases hr
    | start hc hs => rfl
    | header hc hs hw => cases hs
  exact ⟨hout, hf, hrejected, hqueues, hblank, hidle, hlocked, hview hstep hf _ rfl, hidle'⟩

/-- A file on a full medium: it can be emptied, but nothing can be added to it. -/
def full : SinkFile Bytes where
  view := fun content => .ok (.file content)
  start := fun mode content => (.ok (), if mode = .truncate then [] else content)
  extend := fun _ content => (.error .noSpace, content)

/--
A queue that is in the list twice is validated twice. A sweep that starts its file anew on a full
medium has lost the rows in it by the time the header cannot be written.
-/
theorem refusal_exceptions :
    let m (queues : List String) : Matrix := ⟨queues, [⟨1, 1⟩], [64], [0], 1000, 2⟩
    let p : Probe Nat := fun _ n => (.ok "", n)
    let rows := Sink.sheet .withoutDelay [rowOf ⟨"A", ⟨1, 1⟩, 64, 1000, 0⟩ 2 [1, 1]]
    let r := run (.apart choosy p (sinkFile "out.csv")) (m ["B", "B"]) false
      (.fresh .standard .standard) (blank, 0)
    let r' := run (.apart choosy p full) (m ["A"]) false (.fresh .standard .standard) (rows, 0)
    r.result = .error (.invalidQueues ["B", "B"]) ∧
      (r.events.filterMap Event.queue?).count "B" = 2 ∧
      full.KeepsUnopened ∧ r'.result = .error (.sink (.io .noSpace)) ∧
      .noticed .sweepStarted ∉ r'.events ∧
      full.view rows = .ok (.file rows) ∧ rows ≠ [] ∧ full.view r'.world.1 = .ok (.file []) := by
  intro m p rows r r'
  have hkeeps : full.KeepsUnopened := by
    intro mode x y e content hs hv
    cases hs
  have hevents : Event.noticed .sweepStarted ∉ r'.events :=
    unopened_validateQueues (Host.apart choosy p full).worker ["A"] (rows, 0)
  exact ⟨rfl, by decide +kernel, hkeeps, rfl, hevents, rfl, Sink.sheet_ne_nil _ _, rfl⟩

end Sweep

end CalibratedSweep
