import CalibratedSweep.Proofs.Sweep.Probings
/-!
A driver that swept before. What it remembers spares it probings and changes nothing else: its next
sweep is that of a new driver in the same place, without the probings of delays that were probed
before.
-/

namespace CalibratedSweep

def Event.remains (cached : List UInt64) (e : Event) : Bool :=
  e.probedDelay?.all fun delay => decide (delay ∉ cached)

namespace Sweep

theorem remains_of_probedDelay? {cached : List UInt64} {e : Event} (h : e.probedDelay? = none) :
    e.remains cached = true := by
  rw [Event.remains, h]
  rfl

theorem filter_calibrationEvents (cached : List UInt64) {delay : UInt64}
    {q : Calibration.Request} (hq : q.delay = delay) (result : CalibrationResult) :
    (calibrationEvents delay (some q) result).filter (Event.remains cached) =
      if delay ∈ cached then [] else calibrationEvents delay (some q) result := by
  subst hq
  cases result <;> split <;> simp_all [calibrationEvents, Event.remains, Event.probedDelay?]

theorem filter_eq_self_of_probedDelay? (cached : List UInt64) {events : List Event}
    (h : ∀ e ∈ events, e.probedDelay? = none) :
    events.filter (Event.remains cached) = events :=
  List.filter_eq_self.mpr fun e he => remains_of_probedDelay? (h e he)

variable {ρ σ : Type} {b : Behaviour} {settings : Calibration.Settings} {policy : TimeBound.Policy}
  {w : Worker σ} {p : Probe σ} {seen : σ → (Configuration → Nat) → Prop} {cached : List UInt64}

section Visits

structure Alike (b : Behaviour) (settings : Calibration.Settings) (policy : TimeBound.Policy)
    (seen : σ → (Configuration → Nat) → Prop) (cached : List UInt64)
    (a a' : Walk (ρ × σ)) : Prop where
  files : a.world.1 = a'.world.1
  state : ∃ n, seen a.world.2 n ∧ seen a'.world.2 n
  sound : a.memory.Sound settings policy
  sound' : a'.memory.Sound settings policy
  agrees : a.memory.calibrator.Agrees b.answer
  agrees' : a'.memory.calibrator.Agrees b.answer
  delays : ∀ d, d ∈ a.memory.calibrator.delays ↔ d ∈ cached ∨ d ∈ a'.memory.calibrator.delays
  summary : a.summary = a'.summary
  progress : a.progress = a'.progress
  incomplete : a.incomplete = a'.incomplete

/-- Two calibrators resolve a delay alike, and one probes it only if the other one has to. -/
theorem resolve_alike {k k' : Calibrator} {x y : σ} (hk : k.Agrees b.answer)
    (hk' : k'.Agrees b.answer) (hset : k.settings = k'.settings)
    (hd : ∀ d, d ∈ k.delays ↔ d ∈ cached ∨ d ∈ k'.delays) (hx : ∀ q, (p q x).1 = b.answer q)
    (hy : ∀ q, (p q y).1 = b.answer q) (delay : UInt64) :
    let r := k.resolve p delay x
    let r' := k'.resolve p delay y
    r.result = r'.result ∧
      calibrationEvents delay r.probed r.result =
        (calibrationEvents delay r'.probed r'.result).filter (Event.remains cached) ∧
      ∀ d, d ∈ r.calibrator.delays ↔ d ∈ cached ∨ d ∈ r'.calibrator.delays := by
  dsimp only
  have hsame : (k.resolve p delay x).result = (k'.resolve p delay y).result := by
    rw [(hk.resolve hx delay).1, (hk'.resolve hy delay).1, hset]
  have hneeds : k.Needs delay ↔ k'.Needs delay ∧ delay ∉ cached := by
    rw [Calibrator.Needs, Calibrator.Needs, hset, hd]
    tauto
  have hrequest : (k'.settings.request delay).delay = delay := rfl
  refine ⟨hsame, ?_⟩
  rw [Calibrator.delays_resolve, Calibrator.delays_resolve, Calibrator.probed_resolve,
    Calibrator.probed_resolve, hsame, hset]
  by_cases hn : k'.Needs delay
  · rw [if_pos hn, filter_calibrationEvents cached hrequest]
    by_cases hc : delay ∈ cached
    · rw [if_neg (fun h => (hneeds.mp h).2 hc), if_pos hc]
      constructor
      · cases (k'.resolve p delay y).result <;> rfl
      · intro d
        simp only [Option.toList_none, Option.toList_some, List.map_nil, List.map_cons,
          List.append_nil, List.mem_append, List.mem_singleton, hd, hrequest]
        have hdelay : d = delay → d ∈ cached := fun h => h ▸ hc
        tauto
    · rw [if_pos (hneeds.mpr ⟨hn, hc⟩), if_neg hc]
      refine ⟨rfl, fun d => ?_⟩
      simp only [List.mem_append, hd, or_assoc]
  · rw [if_neg hn, if_neg (fun h => hn (hneeds.mp h).1)]
    constructor
    · cases (k'.resolve p delay y).result <;> rfl
    · simpa using hd

theorem repeatRuns_alike (hs : b.Shown [] w p seen) (c : Configuration) (k : Calibration)
    (bound : Duration) (repetition left : Nat) (count : Count) {x y : σ}
    {n : Configuration → Nat} (hx : seen x n) (hy : seen y n) :
    let r := repeatRuns w c k bound repetition left count x
    let r' := repeatRuns w c k bound repetition left count y
    r.1 = r'.1 ∧ r.2.1 = r'.2.1 ∧ r.2.2.1 = r'.2.2.1 ∧
      ∃ n', seen r.2.2.2 n' ∧ seen r'.2.2.2 n' := by
  induction left generalizing repetition count x y n with
  | zero => exact ⟨rfl, rfl, rfl, n, hx, hy⟩
  | succ left ih =>
    have hsame : (w.measure c k bound x).1 = (w.measure c k bound y).1 :=
      (hs.outcome hx c k bound).trans (hs.outcome hy c k bound).symm
    have hx' := hs.seen_measured hx c k bound
    have hy' := hs.seen_measured hy c k bound
    dsimp only
    rw [repeatRuns, repeatRuns]
    dsimp only
    rw [hsame]
    split
    · obtain ⟨hevents, houtcomes, hcount, hstate⟩ := ih (repetition + 1)
        ⟨count.summary.countRun (w.measure c k bound y).1, count.progress.attempt⟩ hx' hy'
      exact ⟨by rw [hevents], by rw [houtcomes], hcount, hstate⟩
    · exact ⟨rfl, rfl, rfl, _, hx', hy'⟩

theorem repeatRuns_files (w : Worker σ) (p : Probe σ) (f : SinkFile ρ) (c : Configuration)
    (k : Calibration) (bound : Duration) (repetition left : Nat) (count : Count) (world : ρ × σ) :
    let r := repeatRuns (Host.apart w p f).worker c k bound repetition left count world
    let r' := repeatRuns w c k bound repetition left count world.2
    r = (r'.1, r'.2.1, r'.2.2.1, (world.1, r'.2.2.2)) := by
  induction left generalizing repetition count world with
  | zero => rfl
  | succ left ih =>
    have hrest := ih (repetition + 1)
      ⟨count.summary.countRun (w.measure c k bound world.2).1, count.progress.attempt⟩
      (world.1, (w.measure c k bound world.2).2)
    have hmeasure : (Host.apart w p f).worker.measure c k bound world =
      ((w.measure c k bound world.2).1, (world.1, (w.measure c k bound world.2).2)) := rfl
    dsimp only at hrest ⊢
    rw [repeatRuns, repeatRuns, hmeasure]
    dsimp only
    split
    · rw [hrest]
    · rfl

theorem resolve_files (w : Worker σ) (p : Probe σ) (f : SinkFile ρ) (k : Calibrator)
    (delay : UInt64) (world : ρ × σ) :
    let r := k.resolve (Host.apart w p f).probe delay world
    let r' := k.resolve p delay world.2
    r = ⟨r'.result, r'.probed, r'.calibrator, (world.1, r'.world)⟩ := by
  dsimp only
  cases hk : k.known? delay with
  | some result => rw [Calibrator.resolve_of_known hk, Calibrator.resolve_of_known hk]
  | none =>
    rw [Calibrator.resolve_of_unknown hk, Calibrator.resolve_of_unknown hk]
    rfl

variable {f : SinkFile ρ} {a a' : Walk (ρ × σ)}

theorem conclude_alike (h : Alike b settings policy seen cached a a') (set : Setting)
    (c : Configuration) (outcomes : List Outcome) :
    let r := conclude (.apart w p f) set c outcomes a
    let r' := conclude (.apart w p f) set c outcomes a'
    r.1 = r'.1 ∧ r.2.1 = r'.2.1 ∧ Alike b settings policy seen cached r.2.2 r'.2.2 := by
  dsimp only
  unfold conclude
  cases reduce c outcomes set.runs with
  | error missing =>
    refine ⟨by rw [h.progress], rfl, { h with summary := ?_, incomplete := ?_ }⟩
    · rw [h.summary]
    · rw [h.incomplete]
  | ok row =>
    have hrow (x : ρ × σ) : Sink.writeRow (Host.apart w p f).sink set.schema row x = _ :=
      extend_onFirst f (Sink.rowLine set.schema row) x
    dsimp only
    rw [hrow, hrow, h.files]
    rcases Sink.extend f (Sink.rowLine set.schema row) a'.world.1 with ⟨_ | ⟨⟨⟩⟩, y⟩
    · exact ⟨rfl, rfl, { h with files := rfl }⟩
    · refine ⟨by rw [h.progress], rfl, { h with files := rfl, summary := ?_ }⟩
      rw [h.summary]

theorem settle_alike (hs : b.Shown [] w p seen) (h : Alike b settings policy seen cached a a')
    (set : Setting) (c : Configuration) (k : Calibration) :
    let r := settle (.apart w p f) set c k a
    let r' := settle (.apart w p f) set c k a'
    r.1 = r'.1 ∧ r.2.1 = r'.2.1 ∧ Alike b settings policy seen cached r.2.2 r'.2.2 := by
  obtain ⟨n, hx, hy⟩ := h.state
  obtain ⟨hbound, hbounds⟩ := h.sound.bounds.bound c.ops c.delay
  obtain ⟨hbound', hbounds'⟩ := h.sound'.bounds.bound c.ops c.delay
  obtain ⟨hruns, houtcomes, hcount, n', hend, hend'⟩ := repeatRuns_alike hs c k
    (policy.bound c.ops c.delay) 1 set.runs.toNat ⟨a'.summary, a'.progress⟩ hx hy
  dsimp only [settle]
  rw [repeatRuns_files, repeatRuns_files, hbound, hbound', h.summary, h.progress]
  dsimp only
  rw [hruns, houtcomes, hcount]
  generalize repeatRuns w c k (policy.bound c.ops c.delay) 1 set.runs.toNat
    ⟨a'.summary, a'.progress⟩ a.world.2 = x at *
  generalize repeatRuns w c k (policy.bound c.ops c.delay) 1 set.runs.toNat
    ⟨a'.summary, a'.progress⟩ a'.world.2 = y at *
  have hmeasured : Alike b settings policy seen cached
      { a with
        world := (a.world.1, x.2.2.2)
        memory := { a.memory with bounds := (a.memory.bounds.bound c.ops c.delay).2 }
        summary := y.2.2.1.summary, progress := y.2.2.1.progress }
      { a' with
        world := (a'.world.1, y.2.2.2)
        memory := { a'.memory with bounds := (a'.memory.bounds.bound c.ops c.delay).2 }
        summary := y.2.2.1.summary, progress := y.2.2.1.progress } := {
    h with
    files := h.files
    state := ⟨n', hend, hend'⟩
    sound := ⟨h.sound.settings, hbounds⟩
    sound' := ⟨h.sound'.settings, hbounds'⟩
    summary := rfl
    progress := rfl }
  obtain ⟨hlast, hresult, halike⟩ :=
    conclude_alike (w := w) (p := p) (f := f) hmeasured set c y.2.1
  exact ⟨by rw [hlast], hresult, halike⟩

theorem resolved_alike (hs : b.Shown [] w p seen) (h : Alike b settings policy seen cached a a')
    (c : Configuration) :
    let r := a.memory.calibrator.resolve (Host.apart w p f).probe c.delay a.world
    let r' := a'.memory.calibrator.resolve (Host.apart w p f).probe c.delay a'.world
    r.result = r'.result ∧
      calibrationEvents c.delay r.probed r.result =
        (calibrationEvents c.delay r'.probed r'.result).filter (Event.remains cached) ∧
      Alike b settings policy seen cached (resolved (.apart w p f) c a)
        (resolved (.apart w p f) c a') := by
  obtain ⟨n, hx, hy⟩ := h.state
  have hset : a.memory.calibrator.settings = a'.memory.calibrator.settings :=
    h.sound.settings.trans h.sound'.settings.symm
  obtain ⟨hresult, hevents, hdelays⟩ := resolve_alike h.agrees h.agrees' hset h.delays
    (hs.answer hx) (hs.answer hy) c.delay
  have hgrows := (a.memory.calibrator.resolve_grows p c.delay a.world.2).1.1
  have hgrows' := (a'.memory.calibrator.resolve_grows p c.delay a'.world.2).1.1
  dsimp only [resolved]
  rw [resolve_files, resolve_files]
  exact ⟨hresult, hevents, {
    h with
    files := h.files
    state := ⟨n, hs.resolve _ c.delay hx, hs.resolve _ c.delay hy⟩
    sound := ⟨hgrows.trans h.sound.settings, h.sound.bounds⟩
    sound' := ⟨hgrows'.trans h.sound'.settings, h.sound'.bounds⟩
    agrees := (h.agrees.resolve (hs.answer hx) c.delay).2
    agrees' := (h.agrees'.resolve (hs.answer hy) c.delay).2
    delays := hdelays }⟩

theorem visit_alike (hs : b.Shown [] w p seen) (h : Alike b settings policy seen cached a a')
    (set : Setting) (c : Configuration) :
    let r := visit (.apart w p f) set c a
    let r' := visit (.apart w p f) set c a'
    r.1 = r'.1.filter (Event.remains cached) ∧ r.2.1 = r'.2.1 ∧
      Alike b settings policy seen cached r.2.2 r'.2.2 := by
  obtain ⟨hresult, hevents, hnext⟩ := resolved_alike (f := f) hs h c
  dsimp only at hresult hevents ⊢
  rw [visit_eq, visit_eq]
  split
  · refine ⟨rfl, rfl, { h with summary := ?_, progress := ?_ }⟩
    · simp only [skipDone, h.summary]
    · simp only [skipDone, h.progress]
  · dsimp only
    rw [hevents, hresult]
    split
    · rename_i e _
      have huncalibrated : (Event.noticed (.uncalibrated c e)).remains cached = true := rfl
      refine ⟨?_, rfl, { hnext with summary := ?_, progress := ?_ }⟩
      · rw [List.filter_append, List.filter_cons_of_pos huncalibrated, List.filter_nil]
      · simp only [skipUncalibrated, hnext.summary]
      · simp only [skipUncalibrated, hnext.progress]
    · rename_i k _
      have hplain := (settle_plain (.apart w p f) set c k (resolved (.apart w p f) c a')).1
      obtain ⟨hsettled, hended, halike⟩ := settle_alike (f := f) hs hnext set c k
      refine ⟨?_, hended, halike⟩
      rw [List.filter_append, filter_eq_self_of_probedDelay? cached hplain, hsettled]

theorem visitAll_alike (hs : b.Shown [] w p seen) (set : Setting) (cs : List Configuration)
    (h : Alike b settings policy seen cached a a') :
    let r := visitAll (.apart w p f) set cs a
    let r' := visitAll (.apart w p f) set cs a'
    r.1 = r'.1.filter (Event.remains cached) ∧ r.2.1 = r'.2.1 ∧
      Alike b settings policy seen cached r.2.2 r'.2.2 := by
  induction cs generalizing a a' with
  | nil => exact ⟨rfl, rfl, h⟩
  | cons c cs ih =>
    have hfirst := visit_alike (f := f) hs h set c
    dsimp only at hfirst ⊢
    rw [visitAll, visitAll]
    rcases hv : visit (.apart w p f) set c a with ⟨events, result, t⟩
    rcases hv' : visit (.apart w p f) set c a' with ⟨events', result', t'⟩
    rw [hv, hv'] at hfirst
    dsimp only at hfirst ⊢
    obtain ⟨rfl, rfl, halike⟩ := hfirst
    cases result with
    | error e => exact ⟨rfl, rfl, halike⟩
    | ok u =>
      obtain ⟨hevents, hresult, hend⟩ := ih halike
      refine ⟨?_, hresult, hend⟩
      dsimp only
      rw [List.filter_append, hevents]

end Visits

section Runs

def Findings.counted (f : Findings) : Summary × List Incomplete × Schema :=
  (f.summary, f.incomplete, f.schema)

structure Spared (cached : List UInt64) (r r' : Ending (ρ × σ)) : Prop where
  events : r.events = r'.events.filter (Event.remains cached)
  files : r.world.1 = r'.world.1
  result : r.result.map Findings.counted = r'.result.map Findings.counted

theorem seen_validateQueues (hs : b.Shown [] w p seen) (queues : List String) {y : σ}
    {n : Configuration → Nat} (hy : seen y n) : seen (validateQueues w queues y).2.2 n := by
  induction queues generalizing y with
  | nil => exact hy
  | cons q queues ih =>
    have hfirst := hs.seen_validate hy q
    rw [validateQueues]
    rcases hv : w.validate q y with ⟨_ | _, z⟩ <;> rw [hv] at hfirst <;> exact ih hfirst

variable {memory : Memory} {f : SinkFile ρ} {m : Matrix} {resume : Bool}

theorem alike_begun (hm : memory.Sound settings policy)
    (hg : memory.calibrator.Agrees b.answer) (m : Matrix) {world : ρ × σ}
    (hs : ∃ n, seen world.2 n) :
    Alike b settings policy seen memory.calibrator.delays (begun m memory world)
      (begun m (.fresh settings policy) world) where
  files := rfl
  state := hs.imp fun _ h => ⟨h, h⟩
  sound := hm
  sound' := Memory.sound_fresh
  agrees := hg
  agrees' := Calibrator.agrees_empty settings
  delays := fun _ => (or_iff_left List.not_mem_nil).symm
  summary := rfl
  progress := rfl
  incomplete := rfl

theorem sweepOpened_spared (hs : b.Shown [] w p seen) (hm : memory.Sound settings policy)
    (hg : memory.calibrator.Agrees b.answer) (set : Setting) {world : ρ × σ}
    (hn : ∃ n, seen world.2 n) :
    let r := sweepOpened (.apart w p f) m memory set world
    let r' := sweepOpened (.apart w p f) m (.fresh settings policy) set world
    Spared memory.calibrator.delays r r' ∧ r.memory.calibrator.Agrees b.answer := by
  have hall := visitAll_alike (f := f) hs set m.plan.configurations (alike_begun hm hg m hn)
  have hstarted : (Event.noticed .sweepStarted).remains memory.calibrator.delays = true := rfl
  have hfinished : (Event.noticed .sweepFinished).remains memory.calibrator.delays = true := rfl
  unfold begun at hall
  dsimp only [sweepOpened] at hall ⊢
  rcases hv : visitAll (.apart w p f) set m.plan.configurations
    ⟨world, memory, .start m.plan.configurations.length, ⟨0, m.plan.totalRuns⟩, []⟩ with
    ⟨events, result, t⟩
  rcases hv' : visitAll (.apart w p f) set m.plan.configurations
    ⟨world, .fresh settings policy, .start m.plan.configurations.length, ⟨0, m.plan.totalRuns⟩,
      []⟩ with ⟨events', result', t'⟩
  rw [hv, hv'] at hall
  dsimp only at hall ⊢
  obtain ⟨rfl, rfl, halike⟩ := hall
  cases result with
  | error e =>
    refine ⟨⟨?_, halike.files, rfl⟩, halike.agrees⟩
    dsimp only
    rw [List.filter_cons_of_pos hstarted]
  | ok u =>
    refine ⟨⟨?_, halike.files, ?_⟩, halike.agrees⟩
    · dsimp only
      rw [List.filter_append, List.filter_cons_of_pos hstarted, List.filter_cons_of_pos hfinished,
        List.filter_nil]
    · simp only [Except.map, Findings.counted, halike.summary, halike.incomplete]

theorem run_spared (hs : b.Shown [] w p seen) (hm : memory.Sound settings policy)
    (hg : memory.calibrator.Agrees b.answer) (f : SinkFile ρ) (m : Matrix) (resume : Bool) (x : ρ)
    {y : σ} (hy : ∃ n, seen y n) :
    let r := run (.apart w p f) m resume memory (x, y)
    let r' := run (.apart w p f) m resume (.fresh settings policy) (x, y)
    Spared memory.calibrator.delays r r' ∧ r.memory.calibrator.Agrees b.answer := by
  have hlayout : layout m memory = layout m (.fresh settings policy) := by
    rw [layout, layout, hm.settings]
    rfl
  have hplain := filter_eq_self_of_probedDelay? memory.calibrator.delays
    (probedDelay?_validateQueues (Host.apart w p f).worker m.queues (x, y))
  by_cases hq : (validateQueues (Host.apart w p f).worker m.queues (x, y)).2.1 = []
  · dsimp only
    rw [run_of_valid hq, run_of_valid hq, hlayout]
    split
    · exact ⟨⟨hplain.symm, rfl, rfl⟩, hg⟩
    · rename_i keys _
      obtain ⟨n, hn⟩ := hy
      have hchecked : seen (checked (.apart w p f) m (x, y)).2 n :=
        seen_validateQueues (hs.apart f) m.queues hn
      rcases ho : openSink (.apart w p f) (layout m (.fresh settings policy)) resume
        (checked (.apart w p f) m (x, y)) with ⟨_ | ⟨⟨⟩⟩, t⟩
      · exact ⟨⟨hplain.symm, rfl, rfl⟩, hg⟩
      · obtain ⟨-, hstate⟩ := openFile_of_openSink ho
        have ht : ∃ n, seen t.2 n := ⟨n, hstate ▸ hchecked⟩
        obtain ⟨hspared, hagrees⟩ := sweepOpened_spared (f := f) (m := m) hs hm hg
          ⟨layout m (.fresh settings policy), m.runs, keys⟩ ht
        refine ⟨⟨?_, hspared.files, hspared.result⟩, hagrees⟩
        dsimp only
        rw [List.filter_append, hplain, hspared.events]
  · dsimp only
    rw [run_of_invalid hq, run_of_invalid hq]
    exact ⟨⟨hplain.symm, rfl, rfl⟩, hg⟩

theorem call?_of_probedDelay? {e : Event} (h : e.probedDelay? ≠ none) :
    e.call? = none ∧ e.row? = none := by
  cases e with
  | measured c k bound o => exact absurd rfl h
  | appended row => exact absurd rfl h
  | _ => exact ⟨rfl, rfl⟩

theorem filterMap_remains {β : Type} {g : Event → Option β}
    (hg : ∀ e, e.probedDelay? ≠ none → g e = none) (cached : List UInt64) (events : List Event) :
    (events.filter (Event.remains cached)).filterMap g = events.filterMap g := by
  induction events with
  | nil => rfl
  | cons e events ih =>
    by_cases he : e.probedDelay? = none
    · rw [List.filter_cons_of_pos (remains_of_probedDelay? he), List.filterMap_cons,
        List.filterMap_cons, ih]
    · rw [List.filterMap_cons, hg e he, ← ih, List.filter_cons]
      split
      · rw [List.filterMap_cons, hg e he]
      · rfl

theorem request?_remains (cached : List UInt64) (events : List Event) :
    (events.filter (Event.remains cached)).filterMap Event.request? =
      (events.filterMap Event.request?).filter fun q => decide (q.delay ∉ cached) := by
  induction events with
  | nil => rfl
  | cons e events ih =>
    cases he : e.request? with
    | none =>
      rw [List.filterMap_cons, he, ← ih, List.filter_cons]
      split
      · rw [List.filterMap_cons, he]
      · rfl
    | some q =>
      have hremains : e.remains cached = decide (q.delay ∉ cached) := by
        cases e with
        | probed q' => cases he; rfl
        | _ => cases he
      rw [List.filterMap_cons, he, List.filter_cons, List.filter_cons, hremains]
      split
      · rw [List.filterMap_cons, he, ih]
      · exact ih

/--
What a driver remembers and what it asked its probe, after any sweeps into any sinks. No run was made
yet where a sweep begins.
-/
inductive Driven (w : Worker σ) (p : Probe σ) (seen : σ → (Configuration → Nat) → Prop)
    (settings : Calibration.Settings) (policy : TimeBound.Policy) :
    List Calibration.Request → Memory → Prop
  | new : Driven w p seen settings policy [] (.fresh settings policy)
  | swept {asked : List Calibration.Request} {memory : Memory}
    (hd : Driven w p seen settings policy asked memory) {ρ : Type} (f : SinkFile ρ) (m : Matrix)
    (resume : Bool) (x : ρ) {y : σ} (hy : seen y fun _ => 0) :
    Driven w p seen settings policy
      (asked ++ (run (.apart w p f) m resume memory (x, y)).events.filterMap Event.request?)
      (run (.apart w p f) m resume memory (x, y)).memory

theorem Driven.remembers (hs : b.Shown [] w p seen) {asked : List Calibration.Request}
    (hd : Driven w p seen settings policy asked memory) :
    memory.Sound settings policy ∧ memory.calibrator.Agrees b.answer ∧
      memory.calibrator.delays = asked.map Calibration.Request.delay := by
  induction hd with
  | new => exact ⟨Memory.sound_fresh, Calibrator.agrees_empty settings, rfl⟩
  | @swept asked memory hd ρ f m resume x y hy ih =>
    obtain ⟨hm, hg, hdelays⟩ := ih
    refine ⟨run_sound _ m resume hm _, (run_spared hs hm hg f m resume x ⟨_, hy⟩).2, ?_⟩
    rw [delays_run, hdelays, List.map_append]
    rfl

structure AsNew (asked : List Calibration.Request) (r r' : Ending (ρ × σ)) : Prop where
  calls : r.events.filterMap Event.call? = r'.events.filterMap Event.call?
  rows : r.events.filterMap Event.row? = r'.events.filterMap Event.row?
  files : r.world.1 = r'.world.1
  result : r.result.map Findings.counted = r'.result.map Findings.counted
  requests : r.events.filterMap Event.request? =
    (r'.events.filterMap Event.request?).filter fun q =>
      decide (q.delay ∉ asked.map Calibration.Request.delay)
  events : r.events = r'.events.filter (Event.remains (asked.map Calibration.Request.delay))

/--
However a driver swept before, it sweeps as a new one would in its place: it makes the same calls and
leaves the same files and the same findings or error. Of the requests to the probe it makes those
for delays that it never asked about.
-/
theorem swept_as_new (hs : b.Shown [] w p seen) {asked : List Calibration.Request}
    (hd : Driven w p seen settings policy asked memory) (f : SinkFile ρ) (m : Matrix)
    (resume : Bool) (x : ρ) {y : σ} (hy : seen y fun _ => 0) :
    AsNew asked (run (.apart w p f) m resume memory (x, y))
      (run (.apart w p f) m resume (.fresh settings policy) (x, y)) := by
  obtain ⟨hm, hg, hdelays⟩ := hd.remembers hs
  obtain ⟨hspared, -⟩ := run_spared hs hm hg f m resume x ⟨_, hy⟩
  rw [hdelays] at hspared
  exact {
    calls := by rw [hspared.events, filterMap_remains fun e he => (call?_of_probedDelay? he).1]
    rows := by rw [hspared.events, filterMap_remains fun e he => (call?_of_probedDelay? he).2]
    files := hspared.files
    result := hspared.result
    requests := by rw [hspared.events, request?_remains]
    events := hspared.events }

theorem swept_as_new_two_delays :
    let m (delays : List UInt64) : Matrix := ⟨["A"], [⟨1, 1⟩], [64], delays, 1000, 1⟩
    let h := Host.apart scoring.worker scoring.probe sieve
    let first := run h (m [200]) false (.fresh .standard .standard) ((), fun _ => 0)
    let next := run h (m [200, 300]) false first.memory ((), fun _ => 0)
    first.events.filterMap Event.request? = [⟨200, 20, 1000, 5⟩] ∧
      next.events.filterMap Event.request? = [⟨300, 30, 1000, 5⟩] ∧
      AsNew [⟨200, 20, 1000, 5⟩] next
        (run h (m [200, 300]) false (.fresh .standard .standard) ((), fun _ => 0)) := by
  intro m h first next
  have hfirst : first.events.filterMap Event.request? = [⟨200, 20, 1000, 5⟩] := by decide +kernel
  have hnext : next.events.filterMap Event.request? = [⟨300, 30, 1000, 5⟩] := by decide +kernel
  have hdriven : Driven scoring.worker scoring.probe Eq .standard .standard
      ([] ++ first.events.filterMap Event.request?) first.memory :=
    .swept .new sieve (m [200]) false () rfl
  rw [hfirst] at hdriven
  exact ⟨hfirst, hnext, swept_as_new (scoring.shown []) hdriven sieve (m [200, 300]) false () rfl⟩

end Runs

end Sweep

end CalibratedSweep
