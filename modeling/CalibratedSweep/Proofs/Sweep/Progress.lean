import CalibratedSweep.Proofs.Plan.Enumeration
import CalibratedSweep.Proofs.Sweep.Counters
import CalibratedSweep.Proofs.Sweep.LogLines
import CalibratedSweep.Proofs.Sweep.Probings

namespace CalibratedSweep

namespace Progress

/-- Up to `left` runs of a configuration. Those that a bad run leaves undone are in the total. -/
inductive Repeats : Nat → Progress → List Outcome → Progress → Prop
  | none (p : Progress) : Repeats 0 p [] p
  | stopped {left : Nat} {p : Progress} {o : Outcome} (ho : o.isSuccess = false)
    (room : left ≤ p.attempt.total.toNat) : Repeats (left + 1) p [o] (p.attempt.forgo (.ofNat left))
  | success {left : Nat} {p q : Progress} {o : Outcome} {outcomes : List Outcome}
    (ho : o.isSuccess = true) (h : Repeats left p.attempt outcomes q) :
    Repeats (left + 1) p (o :: outcomes) q

/-- One configuration of `runs` runs. Those of one that is left out are in the total. -/
inductive Passes (runs : UInt32) (p : Progress) : List Outcome → Progress → Prop
  | skipped (room : runs.toNat ≤ p.total.toNat) : Passes runs p [] (p.forgo runs.toUInt64)
  | repeated {outcomes : List Outcome} {q : Progress} (h : Repeats runs.toNat p outcomes q) :
    Passes runs p outcomes q

variable {p q : Progress} {outcomes : List Outcome} {left later : Nat} {runs : UInt32}

theorem Repeats.due (h : Repeats left p outcomes q)
    (hp : p.total.toNat = p.step.toNat + (left + later)) :
    q.step.toNat = p.step.toNat + outcomes.length ∧ q.total.toNat = q.step.toNat + later := by
  -- Every run made leaves one less to come; `later` runs belong to other configurations.
  induction h with
  | none p => exact ⟨rfl, by omega⟩
  | @stopped left p o ho room =>
    have hsmall := p.total.toNat_lt
    have hstep : p.attempt.step.toNat = p.step.toNat + 1 := toNat_attempt (by omega)
    have htotal : (p.attempt.forgo (.ofNat left)).total.toNat = p.total.toNat - left := by
      rw [toNat_forgo, UInt64.toNat_ofNat_of_lt' (lt_of_le_of_lt room hsmall)]
      rfl
    refine ⟨hstep, ?_⟩
    change _ = p.attempt.step.toNat + later
    omega
  | @success left p q o outcomes ho h ih =>
    have hsmall := p.total.toNat_lt
    have hstep : p.attempt.step.toNat = p.step.toNat + 1 := toNat_attempt (by omega)
    have hattempt : p.attempt.total.toNat = p.attempt.step.toNat + (left + later) := by
      change p.total.toNat = _
      omega
    obtain ⟨hlast, htotal⟩ := ih hattempt
    refine ⟨?_, htotal⟩
    rw [hlast, List.length_cons]
    omega

theorem Passes.due (h : Passes runs p outcomes q)
    (hp : p.total.toNat = p.step.toNat + (runs.toNat + later)) :
    q.step.toNat = p.step.toNat + outcomes.length ∧ q.total.toNat = q.step.toNat + later := by
  cases h with
  | skipped room =>
    have htotal : (p.forgo runs.toUInt64).total.toNat = p.total.toNat - runs.toNat :=
      toNat_forgo p runs.toUInt64
    refine ⟨rfl, ?_⟩
    change _ = p.step.toNat + later
    omega
  | repeated h => exact h.due hp

end Progress

namespace Sweep

variable {σ : Type} {h : Host σ} {set : Setting} {c : Configuration}

def outcomesOf (events : List Event) : List Outcome := (events.filterMap Event.call?).map Call.outcome

theorem outcomesOf_append (events later : List Event) :
    outcomesOf (events ++ later) = outcomesOf events ++ outcomesOf later := by
  rw [outcomesOf, List.filterMap_append, List.map_append]
  rfl

theorem outcomesOf_calibrationEvents (delay : UInt64) (probed : Option Calibration.Request)
    (result : CalibrationResult) : outcomesOf (calibrationEvents delay probed result) = [] := by
  rw [outcomesOf, (call?_calibrationEvents delay probed result).1]
  rfl

theorem shown?_calibrationEvents (delay : UInt64) (probed : Option Calibration.Request)
    (result : CalibrationResult) :
    (calibrationEvents delay probed result).filterMap Event.shown? = [] :=
  filterMap_calibrationEvents (fun _ he => by cases he <;> rfl) delay probed result

theorem shown?_runEvents (c : Configuration) (k : Calibration) (bound : Duration)
    (repetition : Nat) (outcomes : List Outcome) :
    (runEvents c k bound repetition outcomes).filterMap Event.shown? = [] :=
  filterMap_runEvents (fun _ he => by cases he <;> rfl) c k bound repetition outcomes

theorem shown?_validateQueues (w : Worker σ) (queues : List String) (world : σ) :
    (validateQueues w queues world).1.filterMap Event.shown? = [] := by
  induction queues generalizing world with
  | nil => rfl
  | cons q queues ih =>
    rw [validateQueues]
    rcases w.validate q world with ⟨_ | _, world'⟩ <;> exact ih world'

theorem repeatRuns_repeats (w : Worker σ) (c : Configuration) (k : Calibration) (bound : Duration)
    (repetition left : Nat) (n : Count) (world : σ)
    (room : left ≤ n.progress.total.toNat) :
    let r := repeatRuns w c k bound repetition left n world
    Progress.Repeats left n.progress r.2.1 r.2.2.1.progress := by
  induction left generalizing repetition n world with
  | zero => exact .none n.progress
  | succ left ih =>
    have hroom : left ≤ n.progress.attempt.total.toNat := Nat.le_of_succ_le room
    dsimp only
    rw [repeatRuns]
    dsimp only
    split
    · rename_i ho
      exact .success ho (ih (repetition + 1)
        ⟨n.summary.countRun (w.measure c k bound world).1, n.progress.attempt⟩ _ hroom)
    · rename_i ho
      exact .stopped (by simpa using ho) hroom

theorem conclude_counts (h : Host σ) (set : Setting) (c : Configuration) (outcomes : List Outcome)
    (s : Walk σ) :
    let r := conclude h set c outcomes s
    outcomesOf r.1 = [] ∧ r.2.2.progress = s.progress ∧
      r.2.2.summary.invocations = s.summary.invocations ∧
      ∀ x ∈ r.1.filterMap Event.shown?, x.2 = s.progress := by
  dsimp only
  unfold conclude
  split
  · exact ⟨rfl, rfl, rfl, by simp [Event.shown?]⟩
  · dsimp only
    split
    · exact ⟨rfl, rfl, rfl, by simp [Event.shown?]⟩
    · exact ⟨rfl, rfl, rfl, by simp [Event.shown?]⟩

structure Moves (runs : UInt32) (events : List Event) (a b : Walk σ) : Prop where
  passes : a.progress.Passes runs (outcomesOf events) b.progress
  invocations : b.summary.invocations = a.summary.invocations + (outcomesOf events).length
  shown : ∀ x ∈ events.filterMap Event.shown?, x.2 = b.progress

theorem settle_moves (h : Host σ) (set : Setting) (c : Configuration) (k : Calibration) (a : Walk σ)
    (room : set.runs.toNat ≤ a.progress.total.toNat) :
    Moves set.runs (settle h set c k a).1 a (settle h set c k a).2.2 := by
  have hevents := (repeatRuns_events h.worker c k (a.memory.bounds.bound c.ops c.delay).1 1
    set.runs.toNat ⟨a.summary, a.progress⟩ a.world).1
  have hsummary := repeatRuns_summary h.worker c k (a.memory.bounds.bound c.ops c.delay).1 1
    set.runs.toNat ⟨a.summary, a.progress⟩ a.world
  have hrepeats := repeatRuns_repeats h.worker c k (a.memory.bounds.bound c.ops c.delay).1 1
    set.runs.toNat ⟨a.summary, a.progress⟩ a.world room
  dsimp only [settle]
  rw [hevents]
  generalize repeatRuns h.worker c k (a.memory.bounds.bound c.ops c.delay).1 1 set.runs.toNat
    ⟨a.summary, a.progress⟩ a.world = r at hsummary hrepeats ⊢
  obtain ⟨hnone, hprogress, hinvocations, hshown⟩ := conclude_counts h set c r.2.1
    { a with
      world := r.2.2.2
      memory := { a.memory with bounds := (a.memory.bounds.bound c.ops c.delay).2 }
      summary := r.2.2.1.summary, progress := r.2.2.1.progress }
  have houtcomes : outcomesOf (runEvents c k (a.memory.bounds.bound c.ops c.delay).1 1 r.2.1) =
      r.2.1 := by
    rw [outcomesOf, (call?_runEvents c k _ 1 r.2.1).1, List.map_map]
    exact List.map_id _
  constructor
  · rw [outcomesOf_append, houtcomes, hnone, List.append_nil, hprogress]
    exact .repeated hrepeats
  · rw [outcomesOf_append, houtcomes, hnone, List.append_nil, hinvocations, hsummary,
      foldl_countRun]
  · rw [List.filterMap_append, shown?_runEvents, List.nil_append, hprogress]
    exact hshown

theorem visit_moves (h : Host σ) (set : Setting) (c : Configuration) (a : Walk σ)
    (room : set.runs.toNat ≤ a.progress.total.toNat) :
    Moves set.runs (visit h set c a).1 a (visit h set c a).2.2 := by
  rw [visit_eq]
  split
  · exact ⟨.skipped room, rfl, nofun⟩
  · dsimp only
    have hcalls := outcomesOf_calibrationEvents c.delay
      (a.memory.calibrator.resolve h.probe c.delay a.world).probed
      (a.memory.calibrator.resolve h.probe c.delay a.world).result
    have hshown := shown?_calibrationEvents c.delay
      (a.memory.calibrator.resolve h.probe c.delay a.world).probed
      (a.memory.calibrator.resolve h.probe c.delay a.world).result
    split
    · dsimp only
      rename_i e _
      have hnone : outcomesOf [.noticed (.uncalibrated c e)] = [] := rfl
      constructor
      · rw [outcomesOf_append, hcalls, hnone]
        exact .skipped room
      · rw [outcomesOf_append, hcalls, hnone]
        rfl
      · rw [List.filterMap_append, hshown]
        exact nofun
    · rename_i k _
      obtain ⟨hpasses, hinvocations, hlines⟩ := settle_moves h set c k (resolved h c a) room
      dsimp only
      constructor
      · rw [outcomesOf_append, hcalls]
        exact hpasses
      · rw [outcomesOf_append, hcalls]
        exact hinvocations
      · rw [List.filterMap_append, hshown]
        exact hlines

section Places

variable (h : Host σ) (m : Matrix) (resume : Bool) (memory : Memory) (world : σ)

/--
A place in a sweep between two configurations. The list has what is still to be visited; the events
are all that happened by then.
-/
inductive Between : Setting → List Configuration → List Event → Walk σ → Prop
  | opened (hq : (validateQueues h.worker m.queues world).2.1 = []) {keys : List RowKey}
    (hc : completedRows h (layout m memory) resume (checked h m world) = .ok keys) {t : σ}
    (ho : openSink h (layout m memory) resume (checked h m world) = (.ok (), t)) :
    Between ⟨layout m memory, m.runs, keys⟩ m.plan.configurations
      ((validateQueues h.worker m.queues world).1 ++ [.noticed .sweepStarted]) (begun m memory t)
  | visited {set : Setting} {c : Configuration} {rest : List Configuration}
    {events block : List Event} {s t : Walk σ} (hb : Between set (c :: rest) events s)
    (hv : visit h set c s = (block, .ok (), t)) : Between set rest (events ++ block) t

/-- Where a sweep ends: before its first place, after its last one, or at a row it cannot write. -/
inductive Stops : Ending σ → Prop
  | unopened {r : Ending σ} (he : r.events = (validateQueues h.worker m.queues world).1)
    (hr : ∀ findings, r.result ≠ .ok findings) : Stops r
  | finished {set : Setting} {events : List Event} {s : Walk σ}
    (hb : Between h m resume memory world set [] events s) :
    Stops ⟨events ++ [.noticed .sweepFinished],
      .ok ⟨s.summary, s.incomplete, s.memory.calibrator.entries, set.schema⟩, s.memory, s.world⟩
  | failed {set : Setting} {c : Configuration} {rest : List Configuration}
    {events block : List Event} {s t : Walk σ} {e : SinkError}
    (hb : Between h m resume memory world set (c :: rest) events s)
    (hv : visit h set c s = (block, .error e, t)) :
    Stops ⟨events ++ block, .error (.sink e), t.memory, t.world⟩

end Places

variable {m : Matrix} {resume : Bool} {memory : Memory} {world : σ} {rest : List Configuration}
  {events : List Event} {s : Walk σ}

def ended (set : Setting) (events : List Event) :
    List Event × Except SinkError Unit × Walk σ → Ending σ
  | (later, .error e, t) => ⟨events ++ later, .error (.sink e), t.memory, t.world⟩
  | (later, .ok (), t) => ⟨events ++ later ++ [.noticed .sweepFinished],
      .ok ⟨t.summary, t.incomplete, t.memory.calibrator.entries, set.schema⟩, t.memory, t.world⟩

theorem Between.run_eq (hb : Between h m resume memory world set rest events s) :
    run h m resume memory world = ended set events (visitAll h set rest s) := by
  induction hb with
  | @opened hq keys hc t ho =>
    rw [run_of_valid hq, hc]
    dsimp only
    rw [ho]
    unfold sweepOpened begun
    dsimp only
    rcases visitAll h ⟨layout m memory, m.runs, keys⟩ m.plan.configurations
      ⟨t, memory, .start m.plan.configurations.length, ⟨0, m.plan.totalRuns⟩, []⟩ with
      ⟨later, _ | ⟨⟨⟩⟩, b⟩ <;> simp [ended]
  | @visited set c rest events block s t hb hv ih =>
    rw [ih, visitAll, hv]
    dsimp only
    rcases visitAll h set rest t with ⟨later, _ | ⟨⟨⟩⟩, b⟩ <;> simp [ended]

theorem Between.stops (hb : Between h m resume memory world set rest events s) :
    Stops h m resume memory world (ended set events (visitAll h set rest s)) := by
  induction rest generalizing events s with
  | nil =>
    rw [visitAll, ended, List.append_nil]
    exact .finished hb
  | cons c rest ih =>
    rw [visitAll]
    rcases hv : visit h set c s with ⟨block, e | ⟨⟨⟩⟩, t⟩
    · exact .failed hb hv
    · have hrest := ih (hb.visited hv)
      dsimp only
      rcases hall : visitAll h set rest t with ⟨later, _ | ⟨⟨⟩⟩, b⟩ <;> rw [hall] at hrest <;>
        simpa [ended] using hrest

theorem run_stops (h : Host σ) (m : Matrix) (resume : Bool) (memory : Memory) (world : σ) :
    Stops h m resume memory world (run h m resume memory world) := by
  have hbegins := run_begins h m resume memory world
  generalize hr : run h m resume memory world = r at hbegins ⊢
  cases hbegins with
  | rejected hq => exact .unopened rfl nofun
  | unreadable hq hc => exact .unopened rfl nofun
  | unopened hq hc ho => exact .unopened rfl nofun
  | opened hq hc ho =>
    have hb : Between h m resume memory world _ _ _ _ := .opened hq hc ho
    rw [← hr, hb.run_eq]
    exact hb.stops

theorem Between.happened (hb : Between h m resume memory world set rest events s) :
    Happened h set.schema resume events ⟨world, memory.calibrator⟩ ⟨s.world, s.memory.calibrator⟩ := by
  induction hb with
  | @opened hq keys hc t ho =>
    exact (validateQueues_happened h _ resume m.queues ⟨world, memory.calibrator⟩).append
      (.single (.opened ho))
  | visited hb hv ih => exact ih.append ((visit_of_eq_ok hv).happened resume)

theorem Between.order (hb : Between h m resume memory world set rest events s) :
    rest <:+ m.plan.configurations := by
  induction hb with
  | opened hq hc ho => exact List.suffix_refl _
  | visited hb hv ih => exact (List.suffix_cons _ _).trans ih

structure Due (m : Matrix) (set : Setting) (rest : List Configuration) (events : List Event)
    (s : Walk σ) : Prop where
  runs : set.runs = m.runs
  step : s.progress.step.toNat = (outcomesOf events).length
  total : s.progress.total.toNat = s.progress.step.toNat + m.runs.toNat * rest.length
  invocations : s.summary.invocations = s.progress.step.toNat
  lines : ∀ x ∈ events.filterMap Event.shown?, x.2.step ≤ x.2.total

theorem Due.room {c : Configuration} (hd : Due m set (c :: rest) events s) :
    set.runs.toNat ≤ s.progress.total.toNat := by
  have htotal := hd.total
  rw [List.length_cons, Nat.mul_succ] at htotal
  rw [hd.runs]
  omega

theorem Due.visit {block : List Event} {t : Walk σ} (hd : Due m set (c :: rest) events s)
    (hm : Moves set.runs block s t) : Due m set rest (events ++ block) t := by
  have htotal := hd.total
  rw [List.length_cons, Nat.mul_succ, Nat.add_comm (m.runs.toNat * rest.length), ← hd.runs] at htotal
  -- What this visit did not take out of the total it made, so the rest is due as before.
  obtain ⟨hstep, hdue⟩ := hm.passes.due htotal
  refine ⟨hd.runs, ?_, by rw [hdue, hd.runs], ?_, fun x hx => ?_⟩
  · rw [outcomesOf_append, List.length_append, hstep, hd.step]
  · rw [hm.invocations, hd.invocations, hstep]
  · rw [List.filterMap_append, List.mem_append] at hx
    obtain hx | hx := hx
    · exact hd.lines x hx
    · rw [hm.shown x hx, UInt64.le_iff_toNat_le]
      omega

theorem Between.due (hfit : m.plan.configurations.length * m.runs.toNat < 2 ^ 64)
    (hb : Between h m resume memory world set rest events s) : Due m set rest events s := by
  induction hb with
  | @opened hq keys hc t ho =>
    have hcalls : outcomesOf ((validateQueues h.worker m.queues world).1 ++
        [.noticed .sweepStarted]) = [] := by
      rw [outcomesOf_append, outcomesOf, (call?_validateQueues h.worker m.queues world).1]
      rfl
    refine ⟨rfl, by rw [hcalls]; rfl, ?_, rfl, ?_⟩
    · change m.plan.totalRuns.toNat = 0 + m.runs.toNat * _
      rw [Plan.toNat_totalRuns, Nat.zero_add, Nat.mul_comm m.runs.toNat]
      exact Nat.mod_eq_of_lt hfit
    · rw [List.filterMap_append, shown?_validateQueues]
      exact nofun
  | @visited set c rest events block s t hb hv ih =>
    have hmoves := visit_moves h set c s ih.room
    rw [hv] at hmoves
    exact ih.visit hmoves

theorem Between.earlier (hb : Between h m resume memory world set rest events s)
    {before : List Configuration} (hs : before ++ rest <:+ m.plan.configurations) :
    ∃ events s, Between h m resume memory world set (before ++ rest) events s := by
  induction hb generalizing before with
  | @opened hq keys hc t ho =>
    have hlength := hs.length_le
    rw [List.length_append] at hlength
    obtain rfl : before = [] := List.length_eq_zero_iff.mp (by omega)
    exact ⟨_, _, .opened hq hc ho⟩
  | @visited set c rest events block s t hb hv ih =>
    obtain rfl | ⟨front, d, rfl⟩ := List.eq_nil_or_concat' before
    · exact ⟨_, _, .visited hb hv⟩
    · rw [List.append_assoc, List.singleton_append] at hs ⊢
      -- The place right before this one is the one before `c`, so `d` is `c`.
      have hsame : c :: rest = d :: rest := by
        have hd : d :: rest <:+ m.plan.configurations := (List.suffix_append front _).trans hs
        exact (List.suffix_of_suffix_length_le hb.order hd (Nat.le_refl _)).eq_of_length rfl
      obtain ⟨rfl, -⟩ := List.cons.inj hsame
      exact ih hs

theorem Stops.lines (hfit : m.plan.configurations.length * m.runs.toNat < 2 ^ 64) {r : Ending σ}
    (hs : Stops h m resume memory world r) :
    ∀ x ∈ r.events.filterMap Event.shown?, x.2.step ≤ x.2.total := by
  cases hs with
  | unopened he hr =>
    rw [he, shown?_validateQueues]
    exact nofun
  | finished hb =>
    have hlast : [Event.noticed .sweepFinished].filterMap Event.shown? = [] := rfl
    rw [List.filterMap_append, hlast, List.append_nil]
    exact (hb.due hfit).lines
  | @failed set c rest events block s t e hb hv =>
    have hmoves := visit_moves h set c s (hb.due hfit).room
    rw [hv] at hmoves
    exact ((hb.due hfit).visit hmoves).lines

end Sweep

end CalibratedSweep
