import CalibratedSweep.Proofs.Sweep.Apart

namespace CalibratedSweep.Sweep

open Workspace (Holds output pipe? sinkFile view)

section Congruence

variable {σ : Type} {h : Host σ} {f : SinkFile σ} {Has : Bytes → σ → Prop} {set : Setting}
  {content : Bytes}

def SameWrites (f g : SinkFile σ) (Has : Bytes → σ → Prop) : Prop :=
  ∀ ⦃content added : Bytes⦄ ⦃x : σ⦄, Has content x → f.extend added x = g.extend added x

theorem writeRow_congr (he : SameWrites f h.sink Has) (s : Schema) (row : Row) {x : σ}
    (hx : Has content x) : Sink.writeRow f s row x = Sink.writeRow h.sink s row x := by
  unfold Sink.writeRow Sink.extend
  rw [he hx]

theorem conclude_congr (he : SameWrites f h.sink Has) (c : Configuration) (outcomes : List Outcome)
    {a : Walk σ} (ha : Has content a.world) :
    conclude { h with sink := f } set c outcomes a = conclude h set c outcomes a := by
  unfold conclude
  split
  · rfl
  · rename_i row _
    have hrow := writeRow_congr he set.schema row ha
    dsimp only
    rw [hrow]

theorem has_resolve (ht : Tracks h Has) (delay : UInt64) {a : Walk σ} (ha : Has content a.world) :
    Has content (a.memory.calibrator.resolve h.probe delay a.world).world := by
  have hfirst := resolve_happened h .withoutDelay true delay ⟨a.world, a.memory.calibrator⟩ rfl
  have hhas := hfirst.tracks ht (unopened_calibrationEvents delay _ _) ha
  rw [(call?_calibrationEvents delay _ _).2] at hhas
  simpa using hhas

theorem has_repeatRuns (ht : Tracks h Has) (c : Configuration) (k : Calibration) (bound : Duration)
    (left : Nat) (n : Count) {x : σ} (hx : Has content x) :
    Has content (repeatRuns h.worker c k bound 1 left n x).2.2.2 := by
  have hevents := (repeatRuns_events h.worker c k bound 1 left n x).1
  have hfirst := repeatRuns_happened h .withoutDelay true c k bound 1 left n ⟨x, .empty .standard⟩
  rw [hevents] at hfirst
  have hhas := hfirst.tracks ht (unopened_runEvents c k bound 1 _) hx
  rw [(call?_runEvents c k bound 1 _).2] at hhas
  simpa using hhas

theorem visit_congr (ht : Tracks h Has) (he : SameWrites f h.sink Has) (c : Configuration)
    {a : Walk σ} (ha : Has content a.world) :
    visit { h with sink := f } set c a = visit h set c a := by
  unfold visit
  split
  · rfl
  · dsimp only
    have hresolved := has_resolve ht c.delay ha
    split
    · rfl
    · rename_i k _
      have hrepeated := has_repeatRuns ht c k (a.memory.bounds.bound c.ops c.delay).1 set.runs.toNat
        ⟨a.summary, a.progress⟩ hresolved
      rw [conclude_congr he c _ hrepeated]

theorem visitAll_congr (ht : Tracks h Has) (he : SameWrites f h.sink Has) (cs : List Configuration)
    {a : Walk σ} (ha : Has content a.world) :
    visitAll { h with sink := f } set cs a = visitAll h set cs a := by
  induction cs generalizing content a with
  | nil => rfl
  | cons c cs ih =>
    have hvisit : visit { h with sink := f } set c a = visit h set c a := visit_congr ht he c ha
    rw [visitAll, visitAll, hvisit]
    obtain ⟨events, b, hc, hv⟩ | ⟨events, e, b, hc, -⟩ := visit_cases h set c a
    · have hb := (hv.happened true).tracks ht hv.unopened ha
      rw [hc]
      dsimp only
      rw [ih hb]
    · rw [hc]

theorem sweepOpened_congr (ht : Tracks h Has) (he : SameWrites f h.sink Has) (m : Matrix)
    (memory : Memory) (set : Setting) {t : σ} (hc : Has content t) :
    sweepOpened { h with sink := f } m memory set t = sweepOpened h m memory set t := by
  have hvisits : visitAll { h with sink := f } set m.plan.configurations (begun m memory t) =
    visitAll h set m.plan.configurations (begun m memory t) := visitAll_congr ht he _ hc
  unfold begun at hvisits
  unfold sweepOpened
  dsimp only
  rw [hvisits]

end Congruence

variable {path : String} {s : Schema} {σ : Type} {x t : Workspace} {content : Bytes}

theorem extend_output (h : Holds path content x) (b : Bytes) :
    Sink.extend (output path) b x = Sink.extend (sinkFile path) b x := by
  have hfile : (sinkFile path).extend b x = Workspace.extend b x := rfl
  unfold Sink.extend
  rw [h.output_extend b, hfile]

theorem start_output (h : pipe? path x = none) (mode : OpenMode) :
    Sink.start (output path) mode x = Sink.start (sinkFile path) mode x := by
  have hfile : (sinkFile path).start mode x = Workspace.start path mode x := rfl
  unfold Sink.start
  rw [(Workspace.output_of_no_pipe h).2 mode, hfile]

theorem needsHeader_output (h : pipe? path x = none) :
    Sink.needsHeader (output path) s x = Sink.needsHeader (sinkFile path) s x := by
  have hfile : (sinkFile path).view x = view path x := rfl
  unfold Sink.needsHeader
  rw [(Workspace.output_of_no_pipe h).1, hfile]

theorem completed_output (h : pipe? path x = none) :
    Sink.completed (output path) s x = Sink.completed (sinkFile path) s x := by
  have hfile : (sinkFile path).view x = view path x := rfl
  unfold Sink.completed
  rw [(Workspace.output_of_no_pipe h).1, hfile]

/-- Whatever was opened holds something, so that the header goes the same way. -/
theorem header_output {mode : OpenMode} (h : Sink.start (sinkFile path) mode x = (.ok (), t))
    (s : Schema) : Sink.extend (output path) (Sink.headerLine s) t =
      Sink.extend (sinkFile path) (Sink.headerLine s) t := by
  obtain ⟨found, hh, -⟩ := Workspace.holds_of_start (Sink.start_eq_ok_iff.mp h)
  exact extend_output hh _

theorem openFile_output (h : pipe? path x = none) (s : Schema) (resume : Bool) :
    openFile (output path) s resume x = openFile (sinkFile path) s resume x := by
  cases resume with
  | false =>
    have hcreate : Sink.create (output path) s x = Sink.create (sinkFile path) s x := by
      unfold Sink.create
      rw [start_output h]
      rcases hs : Sink.start (sinkFile path) .truncate x with ⟨_ | ⟨⟨⟩⟩, t⟩
      · rfl
      · exact header_output hs s
    exact hcreate
  | true =>
    have happend : Sink.append (output path) s x = Sink.append (sinkFile path) s x := by
      unfold Sink.append
      rw [needsHeader_output h, start_output h]
      cases Sink.needsHeader (sinkFile path) s x with
      | error e => rfl
      | ok new =>
        rcases hs : Sink.start (sinkFile path) .append x with ⟨_ | ⟨⟨⟩⟩, t⟩
        · rfl
        · cases new with
          | false => rfl
          | true => exact header_output hs s
    exact happend

theorem sameWrites_output (w : Worker σ) (p : Probe σ) (path : String) :
    SameWrites (output path).onFirst (Host.apart w p (sinkFile path)).sink
      fun content x => Holds path content x.1 := by
  intro content added x hx
  have hfile : (sinkFile path).extend added x.1 = Workspace.extend added x.1 := rfl
  have hext := hx.output_extend added
  have hout : (output path).onFirst.extend added x =
      (((output path).extend added x.1).1, (((output path).extend added x.1).2, x.2)) := rfl
  have hsink : (Host.apart w p (sinkFile path)).sink.extend added x =
      (((sinkFile path).extend added x.1).1, (((sinkFile path).extend added x.1).2, x.2)) := rfl
  rw [hout, hsink, hext, hfile]

theorem run_output (w : Worker σ) (p : Probe σ) (m : Matrix) (resume : Bool) (memory : Memory)
    (y : σ) (h : pipe? path x = none) :
    run (.apart w p (output path)) m resume memory (x, y) =
      run (.apart w p (sinkFile path)) m resume memory (x, y) := by
  have hsame : (checked (.apart w p (sinkFile path)) m (x, y)).1 = x := checked_apart
  have hchecked : checked (.apart w p (output path)) m (x, y) =
      checked (.apart w p (sinkFile path)) m (x, y) := rfl
  by_cases hq : (validateQueues (Host.apart w p (sinkFile path)).worker m.queues (x, y)).2.1 = []
  · have hrun : run (.apart w p (sinkFile path)) m resume memory (x, y) = _ := run_of_valid hq
    have hrun' : run (.apart w p (output path)) m resume memory (x, y) = _ := run_of_valid hq
    rw [hrun, hrun', hchecked, completedRows_apart, completedRows_apart, openSink_apart,
      openSink_apart, hsame, completed_output h, openFile_output h]
    split
    · rfl
    · rename_i keys _
      rcases ho : openFile (sinkFile path) (layout m memory) resume x with ⟨_ | ⟨⟨⟩⟩, t⟩
      · rfl
      · obtain ⟨opened, hh, -⟩ := holds_of_openFile ho
        have hhost : Host.apart w p (output path) =
          { Host.apart w p (sinkFile path) with sink := (output path).onFirst } := rfl
        have hopened (set : Setting) (z : σ) : sweepOpened
            { Host.apart w p (sinkFile path) with sink := (output path).onFirst } m memory set (t, z) =
              sweepOpened (.apart w p (sinkFile path)) m memory set (t, z) :=
          sweepOpened_congr (tracks_apart w p path) (sameWrites_output w p path) m memory set hh
        dsimp only
        rw [hhost, hopened]
  · rw [run_of_invalid hq]
    exact run_of_invalid (h := .apart w p (output path)) hq

end CalibratedSweep.Sweep
