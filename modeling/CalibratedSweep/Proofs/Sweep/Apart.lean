import CalibratedSweep.Proofs.Sink.File
import CalibratedSweep.Proofs.Sweep.Blocks
/-!
A sweep whose worker and probe leave the result file alone. From its opening on, the file is what it
was then with the rows that were appended so far, and no row fails to be written.
-/

namespace CalibratedSweep.Sweep

open Workspace (Holds sinkFile)

def openFile {ρ : Type} (f : SinkFile ρ) (s : Schema) (resume : Bool) (w : ρ) :
    Except SinkError Unit × ρ :=
  if resume then Sink.append f s w else Sink.create f s w

section Lift

variable {ρ σ : Type} (w : Worker σ) (p : Probe σ) (f : SinkFile ρ) (s : Schema)

theorem extend_onFirst (b : Bytes) (x : ρ × σ) :
    Sink.extend f.onFirst b x = ((Sink.extend f b x.1).1, ((Sink.extend f b x.1).2, x.2)) := by
  have hf : f.onFirst.extend b x = ((f.extend b x.1).1, ((f.extend b x.1).2, x.2)) := rfl
  unfold Sink.extend
  rw [hf]
  rcases f.extend b x.1 with ⟨_ | ⟨⟨⟩⟩, y⟩ <;> rfl

theorem start_onFirst (mode : OpenMode) (x : ρ × σ) :
    Sink.start f.onFirst mode x = ((Sink.start f mode x.1).1, ((Sink.start f mode x.1).2, x.2)) := by
  have hf : f.onFirst.start mode x = ((f.start mode x.1).1, ((f.start mode x.1).2, x.2)) := rfl
  unfold Sink.start
  rw [hf]
  rcases f.start mode x.1 with ⟨_ | ⟨⟨⟩⟩, y⟩ <;> rfl

theorem create_onFirst (x : ρ × σ) :
    Sink.create f.onFirst s x = ((Sink.create f s x.1).1, ((Sink.create f s x.1).2, x.2)) := by
  unfold Sink.create
  rw [start_onFirst]
  rcases Sink.start f .truncate x.1 with ⟨_ | ⟨⟨⟩⟩, y⟩
  · rfl
  · exact extend_onFirst f _ _

theorem append_onFirst (x : ρ × σ) :
    Sink.append f.onFirst s x = ((Sink.append f s x.1).1, ((Sink.append f s x.1).2, x.2)) := by
  have hf : Sink.needsHeader f.onFirst s x = Sink.needsHeader f s x.1 := rfl
  unfold Sink.append
  rw [hf]
  cases Sink.needsHeader f s x.1 with
  | error e => rfl
  | ok new =>
    rw [start_onFirst]
    rcases Sink.start f .append x.1 with ⟨_ | ⟨⟨⟩⟩, y⟩
    · rfl
    · cases new
      · rfl
      · exact extend_onFirst f _ _

theorem openSink_apart (resume : Bool) (x : ρ × σ) :
    openSink (.apart w p f) s resume x =
      ((openFile f s resume x.1).1, ((openFile f s resume x.1).2, x.2)) := by
  unfold openSink openFile
  split
  · exact append_onFirst f s x
  · exact create_onFirst f s x

theorem completedRows_apart (resume : Bool) (x : ρ × σ) :
    completedRows (.apart w p f) s resume x =
      if resume then Sink.completed f s x.1 else .ok [] := rfl

theorem validateQueues_apart (queues : List String) (x : ρ × σ) :
    (validateQueues (Host.apart w p f).worker queues x).2.2.1 = x.1 := by
  induction queues generalizing x with
  | nil => rfl
  | cons q queues ih =>
    rw [validateQueues]
    rcases hv : (Host.apart w p f).worker.validate q x with ⟨r, y⟩
    have hy : y.1 = x.1 := by
      have h1 : ((Host.apart w p f).worker.validate q x).2.1 = x.1 := rfl
      rw [hv] at h1
      exact h1
    cases r <;> exact (ih y).trans hy

end Lift

variable {path : String} {σ : Type} {w : Worker σ} {p : Probe σ} {s : Schema} {resume : Bool}

theorem holds_of_openFile {x y : Workspace} (h : openFile (sinkFile path) s resume x = (.ok (), y)) :
    ∃ opened, Holds path opened y ∧ opened ≠ [] := by
  cases resume with
  | true =>
    obtain ⟨found, hh, hne, -⟩ := Sink.holds_of_append h
    exact ⟨found, hh, hne⟩
  | false => exact ⟨_, Sink.holds_of_create h, Sink.headerLine_ne_nil s⟩

theorem checked_apart {m : Matrix} {world : Workspace × σ} :
    (checked (.apart w p (sinkFile path)) m world).1 = world.1 :=
  validateQueues_apart w p (sinkFile path) m.queues world

theorem extend_of_eq_ok {σ : Type} {f : SinkFile σ} {b : Bytes} {x y : σ}
    (h : Sink.extend f b x = (.ok (), y)) : f.extend b x = (.ok (), y) := by
  unfold Sink.extend at h
  split at h
  · rename_i hf
    cases h
    exact hf
  · cases h

theorem writeRow_apart {r : Row} {x y : Workspace × σ} {result : Except SinkError Unit}
    (hw : Sink.writeRow (Host.apart w p (sinkFile path)).sink s r x = (result, y)) :
    result = .ok () ∧ y.2 = x.2 := by
  have hlift := extend_onFirst (sinkFile path) (Sink.rowLine s r) x
  have heq := hlift.symm.trans hw
  obtain ⟨rfl, rfl⟩ := Prod.mk.inj heq
  refine ⟨?_, rfl⟩
  unfold Sink.extend sinkFile Workspace.extend
  dsimp only
  split
  · rfl
  · rename_i h
    split at h <;> cases h

theorem visitAll_apart (w : Worker σ) (p : Probe σ) (path : String) (set : Setting)
    (cs : List Configuration) (a : Walk (Workspace × σ)) :
    ∃ events b, visitAll (.apart w p (sinkFile path)) set cs a = (events, .ok (), b) := by
  induction cs generalizing a with
  | nil => exact ⟨[], a, rfl⟩
  | cons c cs ih =>
    obtain ⟨block, b, hv, -⟩ | ⟨_, e, b, hv, hfailed⟩ :=
      visit_cases (.apart w p (sinkFile path)) set c a
    · obtain ⟨events, d, hrest⟩ := ih b
      exact ⟨block ++ events, d, by rw [visitAll, hv]; dsimp only; rw [hrest]⟩
    · cases hfailed with
      | write hk hr hc hruns hrow hwrite hm =>
        have hok := (writeRow_apart hwrite).1
        cases hok

/-- Opening the sink is no part of the events. -/
def Unopened (events : List Event) : Prop := Event.noticed .sweepStarted ∉ events

theorem unopened_calibrationEvents (delay : UInt64) (probed : Option Calibration.Request)
    (result : CalibrationResult) : Unopened (calibrationEvents delay probed result) := by
  cases probed <;> cases result <;> simp [Unopened, calibrationEvents]

theorem unopened_runEvents (c : Configuration) (k : Calibration) (bound : Duration)
    (repetition : Nat) (outcomes : List Outcome) :
    Unopened (runEvents c k bound repetition outcomes) := fun h => nomatch
  runEvents_runs c k bound repetition outcomes _ h

theorem Visit.unopened {h : Host σ} {set : Setting} {c : Configuration} {a b : Walk σ}
    {events : List Event} (hv : Visit h set c a events b) : Unopened events := by
  unfold Unopened
  cases hv with
  | done hk hw hm => simp
  | @uncalibrated hk r hr e he t hw hm =>
    have hcal := unopened_calibrationEvents c.delay r.probed r.result
    unfold Unopened at hcal
    simp [hcal]
  | @incomplete hk r hr k hc n n' outcomes world hruns missing hrow p t hw hm =>
    have hcal := unopened_calibrationEvents c.delay r.probed r.result
    have hruns := unopened_runEvents c k (a.memory.bounds.bound c.ops c.delay).1 1 outcomes
    unfold Unopened at hcal hruns
    simp [hcal, hruns]
  | @complete hk r hr k hc n n' outcomes world hruns row hrow p t hwrite hm =>
    have hcal := unopened_calibrationEvents c.delay r.probed r.result
    have hruns := unopened_runEvents c k (a.memory.bounds.bound c.ops c.delay).1 1 outcomes
    unfold Unopened at hcal hruns
    simp [hcal, hruns]

theorem Visits.unopened {h : Host σ} {set : Setting} {cs : List Configuration} {a b : Walk σ}
    {blocks : List (List Event)} (hv : Visits h set cs a blocks b) : Unopened blocks.flatten := by
  induction hv with
  | nil a => simp [Unopened]
  | cons hv _ ih =>
    rw [Unopened, List.flatten_cons, List.mem_append]
    rintro (h | h)
    · exact hv.unopened h
    · exact ih h

theorem unopened_validateQueues (w : Worker σ) (queues : List String) (world : σ) :
    Unopened (validateQueues w queues world).1 := by
  induction queues generalizing world with
  | nil => simp [Unopened, validateQueues]
  | cons q queues ih =>
    unfold Unopened at ih ⊢
    rw [validateQueues]
    rcases w.validate q world with ⟨_ | _, world'⟩ <;> simp [ih world']

/-- `Has` tells what the result file has: the sink adds to its end, and nothing else changes it. -/
structure Tracks {σ : Type} (h : Host σ) (Has : Bytes → σ → Prop) : Prop where
  validate : ∀ {content q x}, Has content x → Has content (h.worker.validate q x).2
  measure : ∀ {content c k bound x}, Has content x → Has content (h.worker.measure c k bound x).2
  probe : ∀ {content q x}, Has content x → Has content (h.probe q x).2
  extend : ∀ {content added x y}, Has content x → h.sink.extend added x = (.ok (), y) →
    Has (content ++ added) y

theorem Happened.tracks {σ : Type} {h : Host σ} {Has : Bytes → σ → Prop} (ht : Tracks h Has)
    {events : List Event} {m n : Moment σ} {content : Bytes} (hh : Happened h s resume events m n)
    (hu : Unopened events) (hc : Has content m.world) :
    Has (content ++ (events.filterMap Event.row?).flatMap (Sink.rowLine s)) n.world := by
  induction hh generalizing content with
  | nil m => simpa using hc
  | @cons e events m n o he _ ih =>
    have hu' : Unopened events := fun h => hu (List.mem_cons_of_mem _ h)
    cases he with
    | validated q => exact ih hu' (ht.validate hc)
    | measured c k bound => exact ih hu' (ht.measure hc)
    | probed hnew => exact ih hu' (ht.probe hc)
    | appended hw =>
      have hrest := ih hu' (ht.extend hc (extend_of_eq_ok hw))
      simpa [Event.row?] using hrest
    | opened ho => exact absurd List.mem_cons_self hu
    | noticed hn => exact ih hu' hc

theorem tracks_apart (w : Worker σ) (p : Probe σ) (path : String) :
    Tracks (.apart w p (sinkFile path)) fun content x => Holds path content x.1 where
  validate h := h
  measure h := h
  probe h := h
  extend := by
    intro content added x y hc hext
    obtain ⟨t, ht, hh⟩ := hc.extend added
    have hy : ((sinkFile path).extend added x.1).2 = y.1 := congrArg (fun r => r.2.1) hext
    have hy' : ((sinkFile path).extend added x.1).2 = t := congrArg Prod.snd ht
    rw [← hy, hy']
    exact hh

theorem Happened.holds {events : List Event} {m n : Moment (Workspace × σ)} {content : Bytes}
    (hh : Happened (.apart w p (sinkFile path)) s resume events m n) (hu : Unopened events)
    (hc : Holds path content m.world.1) :
    Holds path (content ++ (events.filterMap Event.row?).flatMap (Sink.rowLine s)) n.world.1 :=
  hh.tracks (tracks_apart w p path) hu hc

theorem Happened.untouched {events : List Event} {m n : Moment (Workspace × σ)}
    (hh : Happened (.apart w p (sinkFile path)) s resume events m n) (hu : Unopened events)
    (hr : events.filterMap Event.row? = []) : n.world.1 = m.world.1 := by
  induction hh with
  | nil m => rfl
  | @cons e events m n o he _ ih =>
    have hu' : Unopened events := fun h => hu (List.mem_cons_of_mem _ h)
    cases he with
    | validated q => exact ih hu' hr
    | measured c k bound => exact ih hu' hr
    | probed hnew => exact ih hu' hr
    | appended hw => simp [Event.row?] at hr
    | opened ho => exact absurd List.mem_cons_self hu
    | noticed hn => exact ih hu' hr

end CalibratedSweep.Sweep
