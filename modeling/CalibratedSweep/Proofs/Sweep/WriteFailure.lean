import CalibratedSweep.Proofs.Sweep.Counters
import CalibratedSweep.Proofs.Sweep.LogLines
import CalibratedSweep.Proofs.Sweep.Refusal

namespace CalibratedSweep

/--
`Has` tells what the open file has. Opening leaves it as it was or empties it, writing adds to its
end, and what fails to be written is not in it.
-/
structure SinkFile.Keeps {ρ : Type} (f : SinkFile ρ) (Has : Bytes → ρ → Prop) : Prop where
  missing : ∀ {mode x y}, f.view x = .ok .missing → f.start mode x = (.ok (), y) → Has [] y
  start : ∀ {mode x y content}, f.view x = .ok (.file content) → f.start mode x = (.ok (), y) →
    Has (if mode = .truncate then [] else content) y
  extend : ∀ {content added x y}, Has content x → f.extend added x = (.ok (), y) →
    Has (content ++ added) y
  failed : ∀ {content added x y e}, Has content x → f.extend added x = (.error e, y) →
    Has content y
  view : ∀ {content x}, Has content x → f.view x = .ok (.file content)

def SinkFile.Clean {ρ : Type} (f : SinkFile ρ) (s : Schema) (x : ρ) : Prop :=
  f.view x = .ok .missing ∨ f.view x = .ok (.file []) ∨
    ∃ rows, f.view x = .ok (.file (Sink.sheet s rows))

/-- Which rows a sweep keeps that are there already: all, if it resumes. -/
inductive SinkFile.Retains {ρ : Type} (f : SinkFile ρ) (s : Schema) (x : ρ) :
    Bool → List Row → Prop
  | fresh {resume : Bool}
    (h : resume = false ∨ f.view x = .ok .missing ∨ f.view x = .ok (.file [])) :
    Retains f s x resume []
  | resumed {earlier : List Row} (h : f.view x = .ok (.file (Sink.sheet s earlier))) :
    Retains f s x true earlier

namespace Sweep

open Workspace (piped pipe?_piped)

section Visits

variable {σ : Type} {h : Host σ} {set : Setting} {c : Configuration} {cs : List Configuration}
  {a b : Walk σ} {events : List Event} {blocks : List (List Event)} {e : SinkError}

theorem visits_of_eq_error (hv : visitAll h set cs a = (events, .error e, b)) :
    ∃ done c rest blocks last mid, cs = done ++ c :: rest ∧ events = blocks.flatten ++ last ∧
      Visits h set done a blocks mid ∧ FailedVisit h set c mid last e b := by
  induction cs generalizing a events with
  | nil => cases hv
  | cons c cs ih =>
    unfold visitAll at hv
    obtain ⟨block, t, hc, hvisit⟩ | ⟨last, e', t, hc, hfailed⟩ := visit_cases h set c a
    · rw [hc] at hv
      dsimp only at hv
      rcases hrest : visitAll h set cs t with ⟨later, result, d⟩
      rw [hrest] at hv
      cases hv
      obtain ⟨done, c', rest, blocks, last, mid, rfl, rfl, hdone, hfailed⟩ := ih hrest
      exact ⟨c :: done, c', rest, block :: blocks, last, mid, rfl, by
        rw [List.flatten_cons, List.append_assoc], .cons hvisit hdone, hfailed⟩
    · rw [hc] at hv
      cases hv
      exact ⟨[], c, cs, [], _, a, rfl, rfl, .nil a, hfailed⟩

theorem announced?_calibrationEvents (delay : UInt64) (probed : Option Calibration.Request)
    (result : CalibrationResult) :
    (calibrationEvents delay probed result).filterMap Event.announced? = [] := by
  cases probed <;> cases result <;> rfl

theorem announced?_runEvents (c : Configuration) (k : Calibration) (bound : Duration)
    (repetition : Nat) (outcomes : List Outcome) :
    (runEvents c k bound repetition outcomes).filterMap Event.announced? = [] :=
  filterMap_runEvents (fun _ he => by cases he <;> rfl) c k bound repetition outcomes

theorem Fate.Told.announced {known : UInt64 → Option CalibrationResult} {fate : Fate}
    (ht : fate.Told known c events) : events.filterMap Event.announced? = fate.row?.toList := by
  obtain ⟨last, hl, hlast⟩ := ht.filterMap (f := Event.announced?)
    (fun _ he => by cases he <;> rfl) (fun _ he => by cases he <;> rfl)
  rw [hlast]
  cases hl <;> rfl

theorem Visits.announced (hv : Visits h set cs a blocks b) :
    blocks.flatten.filterMap Event.announced? = blocks.flatten.filterMap Event.row? := by
  obtain ⟨fates, -, hstory, -, -⟩ := hv.story
  rw [hstory.rows]
  exact hstory.filterMap Fate.Told.announced

theorem FailedVisit.last (hf : FailedVisit h set c a events e b) (resume : Bool) :
    ∃ front row u k, events = front ++ [.noticed (.rowWritten row)] ∧
      Happened h set.schema resume front ⟨a.world, a.memory.calibrator⟩ ⟨u, k⟩ ∧
      Sink.writeRow h.sink set.schema row u = (.error e, b.world) ∧
      front.filterMap Event.announced? = [] ∧ front.filterMap Event.row? = [] ∧ Unopened front := by
  cases hf with
  | @write hk r hr k hc n n' outcomes world hruns row hrow e t hwrite hm =>
    have hfirst := resolve_happened h set.schema resume c.delay ⟨a.world, a.memory.calibrator⟩ hr
    have hrep := repeatRuns_happened h set.schema resume c k
      (a.memory.bounds.bound c.ops c.delay).1 1 set.runs.toNat n ⟨r.world, r.calibrator⟩
    rw [hruns] at hrep
    refine ⟨_, row, world, r.calibrator, rfl, hfirst.append hrep, hwrite, ?_, ?_, ?_⟩
    · rw [List.filterMap_append, announced?_calibrationEvents, announced?_runEvents,
        List.append_nil]
    · rw [List.filterMap_append, (call?_calibrationEvents c.delay r.probed r.result).2,
        (call?_runEvents c k _ 1 outcomes).2, List.append_nil]
    · have hcal := unopened_calibrationEvents c.delay r.probed r.result
      have hruns := unopened_runEvents c k (a.memory.bounds.bound c.ops c.delay).1 1 outcomes
      unfold Unopened at hcal hruns ⊢
      simp [hcal, hruns]

theorem visitAll_written (hv : visitAll h set cs a = (events, .ok (), b)) (resume : Bool) :
    Happened h set.schema resume events ⟨a.world, a.memory.calibrator⟩
        ⟨b.world, b.memory.calibrator⟩ ∧
      events.filterMap Event.announced? = events.filterMap Event.row? ∧ Unopened events := by
  obtain ⟨blocks, rfl, hs⟩ := visits_of_eq_ok hv
  exact ⟨hs.happened resume, hs.announced, hs.unopened⟩

theorem visitAll_failed (hv : visitAll h set cs a = (events, .error e, b)) (resume : Bool) :
    ∃ front row n, events = front ++ [.noticed (.rowWritten row)] ∧
      Happened h set.schema resume front ⟨a.world, a.memory.calibrator⟩ n ∧
      Sink.writeRow h.sink set.schema row n.world = (.error e, b.world) ∧
      front.filterMap Event.announced? = front.filterMap Event.row? ∧ Unopened front := by
  obtain ⟨done, c, rest, blocks, last, mid, rfl, rfl, hdone, hfailed⟩ := visits_of_eq_error hv
  obtain ⟨front, row, u, k, rfl, hfront, hwrite, hannounced, hrows, hunopened⟩ :=
    hfailed.last resume
  refine ⟨blocks.flatten ++ front, row, ⟨u, k⟩, ?_, ?_, hwrite, ?_, ?_⟩
  · rw [List.append_assoc]
  · exact (hdone.happened resume).append hfront
  · rw [List.filterMap_append, List.filterMap_append, hdone.announced, hannounced, hrows]
  · rw [Unopened, List.mem_append]
    rintro (h | h)
    · exact hdone.unopened h
    · exact hunopened h

theorem announced?_validateQueues (w : Worker σ) (queues : List String) (world : σ) :
    (validateQueues w queues world).1.filterMap Event.announced? = [] := by
  induction queues generalizing world with
  | nil => rfl
  | cons q queues ih =>
    rw [validateQueues]
    rcases w.validate q world with ⟨_ | _, world'⟩ <;> exact ih world'

variable {m : Matrix} {memory : Memory} {t : σ}

theorem sweepOpened_of_eq_ok
    (hv : visitAll h set m.plan.configurations (begun m memory t) = (events, .ok (), b)) :
    sweepOpened h m memory set t = ⟨.noticed .sweepStarted :: events ++ [.noticed .sweepFinished],
      .ok ⟨b.summary, b.incomplete, b.memory.calibrator.entries, set.schema⟩, b.memory, b.world⟩ := by
  unfold begun at hv
  unfold sweepOpened
  dsimp only
  rw [hv]

theorem sweepOpened_of_eq_error
    (hv : visitAll h set m.plan.configurations (begun m memory t) = (events, .error e, b)) :
    sweepOpened h m memory set t =
      ⟨.noticed .sweepStarted :: events, .error (.sink e), b.memory, b.world⟩ := by
  unfold begun at hv
  unfold sweepOpened
  dsimp only
  rw [hv]

end Visits

theorem filterMap_opened {α : Type} {g : Event → Option α} {checks body last : List Event}
    (hc : checks.filterMap g = []) (hs : g (.noticed .sweepStarted) = none) :
    (checks ++ .noticed .sweepStarted :: (body ++ last)).filterMap g =
      body.filterMap g ++ last.filterMap g := by
  rw [List.filterMap_append, hc, List.nil_append, List.filterMap_cons, hs, List.filterMap_append]

/-- The sweep ended where a row could not be written, and nothing happened after that. -/
inductive StopsAtRow {σ : Type} (h : Host σ) (s : Schema) (resume : Bool) (m : Moment σ)
    (r : Ending σ) : Prop
  | intro {front : List Event} {row : Row} {n : Moment σ} {e : SinkError}
    (events : r.events = front ++ [.noticed (.rowWritten row)])
    (before : Happened h s resume front m n)
    (write : Sink.writeRow h.sink s row n.world = (.error e, r.world))
    (result : r.result = .error (.sink e))

section File

variable {ρ σ : Type} {f : SinkFile ρ} {Has : Bytes → ρ → Prop} {s : Schema} {resume : Bool}
  {x t : ρ}

theorem start_of_eq_ok {mode : OpenMode} (h : Sink.start f mode x = (.ok (), t)) :
    f.start mode x = (.ok (), t) := by
  unfold Sink.start at h
  split at h
  · rename_i hs
    cases h
    exact hs
  · cases h

theorem extend_of_eq_error {b : Bytes} {e : SinkError} (h : Sink.extend f b x = (.error e, t)) :
    ∃ e', f.extend b x = (.error e', t) := by
  unfold Sink.extend at h
  split at h
  · cases h
  · rename_i e' _ hf
    cases h
    exact ⟨e', hf⟩

theorem has_header (hf : f.Keeps Has) {u : ρ} (hu : Has [] u)
    (h : Sink.extend f (Sink.headerLine s) u = (.ok (), t)) : Has (Sink.sheet s []) t := by
  have hsheet : Sink.sheet s [] = [] ++ Sink.headerLine s := List.append_nil _
  rw [hsheet]
  exact hf.extend hu (extend_of_eq_ok h)

theorem has_of_append (hf : f.Keeps Has)
    (hx : f.view x = .ok .missing ∨ f.view x = .ok (.file []))
    (ho : Sink.append f s x = (.ok (), t)) : Has (Sink.sheet s []) t := by
  have hneeds : Sink.needsHeader f s x = .ok true := by
    unfold Sink.needsHeader
    obtain hx | hx := hx <;> rw [hx]
    rfl
  rw [Sink.append, hneeds] at ho
  dsimp only at ho
  split at ho
  · cases ho
  · rename_i u hs
    refine has_header hf ?_ ho
    obtain hx | hx := hx
    · exact hf.missing hx (start_of_eq_ok hs)
    · exact hf.start hx (start_of_eq_ok hs)

theorem has_of_create (hf : f.Keeps Has) (hx : f.Clean s x)
    (ho : Sink.create f s x = (.ok (), t)) : Has (Sink.sheet s []) t := by
  unfold Sink.create at ho
  split at ho
  · cases ho
  · rename_i u hs
    refine has_header hf ?_ ho
    obtain hx | hx | ⟨rows, hx⟩ := hx
    · exact hf.missing hx (start_of_eq_ok hs)
    · exact hf.start hx (start_of_eq_ok hs)
    · exact hf.start hx (start_of_eq_ok hs)

theorem has_of_openFile (hf : f.Keeps Has) (hx : f.Clean s x)
    (ho : openFile f s resume x = (.ok (), t)) :
    ∃ earlier, f.Retains s x resume earlier ∧ Has (Sink.sheet s earlier) t := by
  cases resume with
  | false => exact ⟨[], .fresh (.inl rfl), has_of_create hf hx ho⟩
  | true =>
    have happend : Sink.append f s x = (.ok (), t) := ho
    obtain hx | hx | ⟨rows, hx⟩ := hx
    · exact ⟨[], .fresh (.inr (.inl hx)), has_of_append hf (.inl hx) happend⟩
    · exact ⟨[], .fresh (.inr (.inr hx)), has_of_append hf (.inr hx) happend⟩
    · have hempty : (Sink.sheet s rows).isEmpty = false := by
        simpa using Sink.sheet_ne_nil s rows
      have hneeds : Sink.needsHeader f s x = .ok false := by
        unfold Sink.needsHeader
        rw [hx]
        dsimp only
        rw [hempty, if_neg Bool.false_ne_true,
          Sink.checkHeader_of_keysIn (Sink.sheet_ne_nil s rows) (Sink.keysIn_sheet s rows)]
        rfl
      rw [Sink.append, hneeds] at happend
      dsimp only at happend
      split at happend
      · cases happend
      · rename_i u hs
        cases happend
        exact ⟨rows, .resumed hx, hf.start hx (start_of_eq_ok hs)⟩

theorem keeps_tracks (hf : f.Keeps Has) (w : Worker σ) (p : Probe σ) :
    Tracks (.apart w p f) fun content x => Has content x.1 where
  validate h := h
  measure h := h
  probe h := h
  extend := by
    intro content added x y hc hext
    have hfirst : f.extend added x.1 = (.ok (), y.1) := by
      have hlift : (Host.apart w p f).sink.extend added x =
          ((f.extend added x.1).1, ((f.extend added x.1).2, x.2)) := rfl
      rw [hlift] at hext
      obtain ⟨hok, hy⟩ := Prod.mk.inj hext
      exact Prod.ext hok (congrArg Prod.fst hy)
    exact hf.extend hc hfirst

theorem completed_of_view_sheet {rows : List Row} (hv : f.view x = .ok (.file (Sink.sheet s rows))) :
    Sink.completed f s x = .ok (rows.map fun r => s.keyOf r.key) := by
  unfold Sink.completed
  rw [hv]
  dsimp only
  rw [Sink.keysIn_sheet]
  rfl

theorem has_of_failed_row (hf : f.Keeps Has) {w : Worker σ} {p : Probe σ} {content : Bytes}
    {row : Row} {a b : ρ × σ} {e : SinkError} (ha : Has content a.1)
    (hw : Sink.writeRow (Host.apart w p f).sink s row a = (.error e, b)) : Has content b.1 := by
  have hlift := extend_onFirst f (Sink.rowLine s row) a
  have heq := hlift.symm.trans hw
  obtain ⟨herror, hb⟩ := Prod.mk.inj heq
  have hext : Sink.extend f (Sink.rowLine s row) a.1 = (.error e, b.1) :=
    Prod.ext herror (congrArg Prod.fst hb)
  obtain ⟨e', he⟩ := extend_of_eq_error hext
  exact hf.failed ha he

/--
A sweep that got as far as its visits either ends well or stops at the first row that cannot be
written. What was written before is in the file. The log has one row too many in the second case.
-/
theorem failed_write_ends_sweep (w : Worker σ) (p : Probe σ) (hf : f.Keeps Has) (m : Matrix)
    (resume : Bool) (memory : Memory) (y : σ) (hx : f.Clean (layout m memory) x) :
    let h := Host.apart w p f
    let s := layout m memory
    let r := run h m resume memory (x, y)
    let rows := r.events.filterMap Event.row?
    let announcements := (Event.log r.events).count "INFO row written"
    .noticed .sweepStarted ∈ r.events →
      (∃ earlier, f.Retains s x resume earlier ∧
        f.view r.world.1 = .ok (.file (Sink.sheet s (earlier ++ rows))) ∧
        Sink.completed f s r.world.1 = .ok ((earlier ++ rows).map fun row => s.keyOf row.key)) ∧
      ((∃ findings, r.result = .ok findings) ∧ announcements = rows.length ∨
        StopsAtRow h s resume ⟨(x, y), memory.calibrator⟩ r ∧ announcements = rows.length + 1) := by
  dsimp only
  intro hstarted
  rw [Event.count_log]
  have hbegins := run_begins (.apart w p f) m resume memory (x, y)
  have hunopened := unopened_validateQueues (Host.apart w p f).worker m.queues (x, y)
  have hchecks := validateQueues_happened (.apart w p f) (layout m memory) resume m.queues
    ⟨(x, y), memory.calibrator⟩
  have hsilent := announced?_validateQueues (Host.apart w p f).worker m.queues (x, y)
  have hrowless := (call?_validateQueues (Host.apart w p f).worker m.queues (x, y)).2
  generalize run (.apart w p f) m resume memory (x, y) = r at hbegins hstarted ⊢
  -- A sweep that has started is one whose file was opened.
  cases hbegins with
  | rejected hq => exact absurd hstarted hunopened
  | unreadable hq hc => exact absurd hstarted hunopened
  | unopened hq hc ho => exact absurd hstarted hunopened
  | @opened hq keys hc t ho =>
    obtain ⟨hopen, -⟩ := openFile_of_openSink ho
    have hsame : (checked (.apart w p f) m (x, y)).1 = x := validateQueues_apart w p f m.queues (x, y)
    rw [hsame] at hopen
    obtain ⟨earlier, hretains, hhas⟩ := has_of_openFile hf hx hopen
    have hfile {body : List Event} {n : Moment (ρ × σ)}
        (hb : Happened (.apart w p f) (layout m memory) resume body ⟨t, memory.calibrator⟩ n)
        (hu : Unopened body) :
        Has (Sink.sheet (layout m memory) (earlier ++ body.filterMap Event.row?)) n.world.1 := by
      rw [← Sink.sheet_append]
      exact hb.tracks (keeps_tracks hf w p) hu hhas
    have hleft {rows : List Row} {u : ρ}
        (hu : Has (Sink.sheet (layout m memory) (earlier ++ rows)) u) :
        ∃ earlier, f.Retains (layout m memory) x resume earlier ∧
          f.view u = .ok (.file (Sink.sheet (layout m memory) (earlier ++ rows))) ∧
          Sink.completed f (layout m memory) u =
            .ok ((earlier ++ rows).map fun row => (layout m memory).keyOf row.key) :=
      ⟨earlier, hretains, hf.view hu, completed_of_view_sheet (hf.view hu)⟩
    have hstart := hchecks.append (.single (.opened ho))
    rcases hv : visitAll (.apart w p f) ⟨layout m memory, m.runs, keys⟩ m.plan.configurations
      (begun m memory t) with ⟨events, e | ⟨⟨⟩⟩, b⟩
    · obtain ⟨front, row, n, rfl, hfront, hwrite, hannounced, hu⟩ := visitAll_failed hv resume
      have hkept := has_of_failed_row hf (hfile hfront hu) hwrite
      rw [sweepOpened_of_eq_error hv]
      dsimp only
      rw [filterMap_opened hrowless rfl, filterMap_opened hsilent rfl, hannounced]
      have hlast : [Event.noticed (.rowWritten row)].filterMap Event.row? = [] := rfl
      rw [hlast, List.append_nil]
      refine ⟨hleft hkept, .inr ⟨?_, ?_⟩⟩
      · refine .intro ?_ (hstart.append hfront) hwrite rfl
        rw [List.append_assoc, List.append_assoc]
        rfl
      · exact List.length_append
    · obtain ⟨hbody, hannounced, hu⟩ := visitAll_written hv resume
      have hkept := hfile hbody hu
      rw [sweepOpened_of_eq_ok hv]
      dsimp only
      rw [List.cons_append, filterMap_opened hrowless rfl, filterMap_opened hsilent rfl, hannounced]
      have hlast : [Event.noticed .sweepFinished].filterMap Event.row? = [] := rfl
      rw [hlast, List.append_nil]
      have hcount := congrArg List.length (List.append_nil (events.filterMap Event.row?))
      exact ⟨hleft hkept, .inl ⟨⟨_, rfl⟩, hcount⟩⟩

end File

structure Medium where
  content : Option Bytes
  left : Nat

def frail : SinkFile Medium where
  view := fun x => match x.content with
    | none => .ok .missing
    | some content => .ok (.file content)
  start := fun mode x => match mode with
    | .truncate => (.ok (), { x with content := some [] })
    | .append => (.ok (), { x with content := some (x.content.getD []) })
  extend := fun b x => match x.left with
    | 0 => (.error .brokenPipe, x)
    | n + 1 => (.ok (), ⟨some (x.content.getD [] ++ b), n⟩)

theorem keeps_frail : frail.Keeps fun content x => x.content = some content where
  missing := by
    intro mode x y hv hs
    obtain ⟨_ | content, n⟩ := x
    · cases mode <;> cases hs <;> rfl
    · cases hv
  start := by
    intro mode x y content hv hs
    obtain ⟨_ | found, n⟩ := x
    · cases hv
    · cases hv
      cases mode <;> cases hs <;> rfl
  extend := by
    intro content added x y hc hext
    obtain ⟨found, _ | n⟩ := x
    · cases hext
    · cases hext
      cases hc
      rfl
  failed := by
    intro content added x y e hc hext
    obtain ⟨found, _ | n⟩ := x
    · cases hext
      exact hc
    · cases hext
  view := by
    intro content x hc
    obtain ⟨found, n⟩ := x
    cases hc
    rfl

theorem failed_write_ends_sweep_frail :
    let m : Matrix := ⟨["A"], [⟨1, 1⟩], [64, 128], [0], 1000, 1⟩
    let s := layout m (.fresh .standard .standard)
    let h := Host.apart steady silent frail
    let r := run h m true (.fresh .standard .standard) (⟨none, 2⟩, ())
    frail.Clean s ⟨none, 2⟩ ∧ .noticed .sweepStarted ∈ r.events ∧
      ∃ row, r.events.filterMap Event.row? = [row] ∧
        frail.view r.world.1 = .ok (.file (Sink.sheet s [row])) ∧
        Sink.completed frail s r.world.1 = .ok [s.keyOf row.key] ∧
        StopsAtRow h s true ⟨(⟨none, 2⟩, ()), .empty .standard⟩ r ∧
        (Event.log r.events).count "INFO row written" = 2 := by
  intro m s h r
  have hclean : frail.Clean s ⟨none, 2⟩ := .inl rfl
  have hstarted : Event.noticed .sweepStarted ∈ r.events :=
    List.mem_cons_of_mem _ (List.mem_cons_of_mem _ List.mem_cons_self)
  have hfailed : r.result = .error (.sink (.io .brokenPipe)) := rfl
  obtain ⟨⟨earlier, hretains, hview, hkeys⟩, ⟨⟨findings, hok⟩, -⟩ | ⟨hstop, hcount⟩⟩ :=
    failed_write_ends_sweep steady silent keeps_frail m true (.fresh .standard .standard) () hclean
      hstarted
  · have hne := hfailed.symm.trans hok
    cases hne
  · cases hretains with
    | fresh _ => exact ⟨hclean, hstarted, _, rfl, hview, hkeys, hstop, hcount⟩
    | resumed hx => cases hx

theorem unwritten_row_announced :
    let m : Matrix := ⟨["A"], [⟨1, 1⟩], [64], [0], 1000, 1⟩
    let f := Workspace.output "out.csv"
    let r := run (.apart steady silent f) m false (.fresh .standard .standard) (piped 1, ())
    f.Clean .withoutDelay (piped 1) ∧ r.result = .error (.sink (.io .brokenPipe)) ∧
      r.events.filterMap Event.row? = [] ∧ (Event.log r.events).count "INFO row written" = 1 := by
  intro m f r
  have hclean : f.Clean .withoutDelay (piped 1) := by
    refine .inr (.inl ?_)
    simp only [f, Workspace.output, pipe?_piped, Option.isSome_some, if_true]
  have hstart : f.start .truncate (piped 1) =
      (.ok (), { piped 1 with sink := some ⟨["out.csv"], none⟩ }) := by
    simp only [f, Workspace.output, pipe?_piped]
  have hopen : openFile f .withoutDelay false (piped 1) =
      (.ok (), { piped 0 with sink := some ⟨["out.csv"], none⟩ }) := by
    have hcreate : openFile f .withoutDelay false (piped 1) =
      Sink.create f .withoutDelay (piped 1) := rfl
    rw [hcreate, Sink.create, Sink.start, hstart]
    rfl
  have hr : r = _ := run_of_valid rfl
  have hlayout : layout m (.fresh .standard .standard) = .withoutDelay := rfl
  have hchecked : checked (.apart steady silent f) m (piped 1, ()) = (piped 1, ()) := rfl
  rw [hlayout, hchecked, completedRows_apart, if_neg Bool.false_ne_true, openSink_apart] at hr
  dsimp only at hr
  rw [hopen] at hr
  rw [Event.count_log, hr]
  exact ⟨hclean, rfl, rfl, rfl⟩

end Sweep

end CalibratedSweep
