import CalibratedSweep.Proofs.Plan.Distinct
import CalibratedSweep.Proofs.Sink.Sessions
import CalibratedSweep.Proofs.Sweep.Attempt
import CalibratedSweep.Proofs.Sweep.Resumption
/-!
Interrupted sweeps. When worker and probe repeat themselves, the rows in the file are at any time
those of the first configurations of the plan. A sweep that was cut off, and resumed any number of
times, in the end leaves the file of a sweep that was never cut off.
-/

namespace CalibratedSweep

def Event.IsCall : Event → Prop
  | .measured _ _ _ _ => True
  | .probed _ => True
  | _ => False

def Event.CallFor (c : Configuration) : Event → Prop
  | .measured d _ _ _ => d = c
  | .probed q => q.delay = c.delay
  | _ => False

namespace Sweep

open Workspace (Holds Vacant blank sinkFile vacant_blank view)

section Calls

variable {c : Configuration} {set : Setting} {policy : TimeBound.Policy}
  {known : UInt64 → Option CalibrationResult} {e : Event} {before after : List Event}

/-- First the calls for `c`, then what is left to do. -/
def CallsFirst (c : Configuration) (events : List Event) : Prop :=
  ∃ calls rest, events = calls ++ rest ∧
    (∀ e ∈ calls, e.row? = none ∧ (e.IsCall → e.CallFor c)) ∧ ∀ e ∈ rest, ¬e.IsCall

theorem calls_calibrationEvents {probed : Option Calibration.Request} {result : CalibrationResult}
    (hp : ∀ q, probed = some q → q.delay = c.delay) :
    ∀ e ∈ calibrationEvents c.delay probed result, e.row? = none ∧ (e.IsCall → e.CallFor c) := by
  intro e he
  cases probed with
  | none => cases result <;> simp [calibrationEvents] at he
  | some q =>
    have hdelay := hp q rfl
    cases result with
    | ok k =>
      simp only [calibrationEvents, List.mem_cons, List.not_mem_nil, or_false] at he
      rcases he with rfl | rfl
      · exact ⟨rfl, fun _ => hdelay⟩
      · exact ⟨rfl, False.elim⟩
    | error e' =>
      simp only [calibrationEvents, List.mem_cons, List.not_mem_nil, or_false] at he
      rcases he with rfl | rfl
      · exact ⟨rfl, fun _ => hdelay⟩
      · exact ⟨rfl, False.elim⟩

theorem calls_runEvents (k : Calibration) (bound : Duration) (repetition : Nat)
    (outcomes : List Outcome) : ∀ e ∈ runEvents c k bound repetition outcomes,
      e.row? = none ∧ (e.IsCall → e.CallFor c) := by
  induction outcomes generalizing repetition with
  | nil => simp [runEvents]
  | cons o outcomes ih =>
    intro e he
    rw [runEvents, List.cons_append, List.mem_cons, List.mem_append] at he
    rcases he with rfl | he | he
    · exact ⟨rfl, fun _ => rfl⟩
    · cases o <;> simp [runNotice] at he <;> subst he <;> exact ⟨rfl, False.elim⟩
    · exact ih (repetition + 1) e he

theorem callsFirst_block {probed : Option Calibration.Request} {result : CalibrationResult}
    (hp : ∀ q, probed = some q → q.delay = c.delay) (k : Calibration) (bound : Duration)
    (outcomes : List Outcome) {rest : List Event} (hrest : ∀ e ∈ rest, ¬e.IsCall) :
    CallsFirst c (calibrationEvents c.delay probed result ++ runEvents c k bound 1 outcomes ++
      rest) := by
  refine ⟨_, rest, rfl, ?_, hrest⟩
  intro e he
  rcases List.mem_append.mp he with he | he
  · exact calls_calibrationEvents hp e he
  · exact calls_runEvents k bound 1 outcomes e he

theorem Block.callsFirst {events : List Event} (hb : Block set policy known c events) :
    CallsFirst c events := by
  cases hb with
  | done hk => exact ⟨[], [], rfl, by simp, by simp⟩
  | uncalibrated hk hc hp =>
    refine ⟨_, _, rfl, calls_calibrationEvents hp, ?_⟩
    simp [Event.IsCall]
  | incomplete hk hc hp hl hb missing p => exact callsFirst_block hp _ _ _ (by simp [Event.IsCall])
  | complete hk hc hp hl p => exact callsFirst_block hp _ _ _ (by simp [Event.IsCall])

theorem CallsFirst.call (h : CallsFirst c (before ++ e :: after)) (he : e.IsCall) :
    e.CallFor c ∧ before.filterMap Event.row? = [] := by
  obtain ⟨calls, rest, heq, hcalls, hrest⟩ := h
  have hsplit : ∃ more, calls = before ++ e :: more := by
    obtain ⟨mid, rfl, hmid⟩ | ⟨mid, rfl, hmid⟩ := List.append_eq_append_iff.mp heq
    · cases mid with
      | nil =>
        have hmem : e ∈ rest := by
          rw [List.nil_append] at hmid
          rw [← hmid]
          exact List.mem_cons_self
        exact absurd he (hrest e hmem)
      | cons d more =>
        obtain ⟨rfl, -⟩ := List.cons.inj hmid
        exact ⟨more, rfl⟩
    · exact absurd he (hrest e (by simp [hmid]))
  obtain ⟨more, rfl⟩ := hsplit
  constructor
  · exact (hcalls e (by simp)).2 he
  · rw [List.filterMap_eq_nil_iff]
    intro d hd
    exact (hcalls d (List.mem_append_left _ hd)).1

theorem call_of_blocks {row? : Configuration → Option Row} {cs : List Configuration}
    {blocks : List (List Event)}
    (hb : List.Forall₂ (fun c block => block.filterMap Event.row? = (row? c).toList ∧
      ∃ known, Block set policy known c block) cs blocks)
    (hs : blocks.flatten = before ++ e :: after) (he : e.IsCall) :
    ∃ done c rest, cs = done ++ c :: rest ∧ e.CallFor c ∧
      before.filterMap Event.row? = done.filterMap row? := by
  induction hb generalizing before with
  | nil => simp at hs
  | @cons c block cs blocks hc _ ih =>
    obtain ⟨hrow, known, hblock⟩ := hc
    rw [List.flatten_cons] at hs
    -- The call lies behind this block, or in it.
    have hcases : (∃ later, before = block ++ later ∧ blocks.flatten = later ++ e :: after) ∨
        ∃ more, block = before ++ e :: more := by
      obtain ⟨mid, hmid, hlater⟩ | ⟨mid, rfl, hmid⟩ := List.append_eq_append_iff.mp hs
      · exact .inl ⟨mid, hmid, hlater⟩
      · cases mid with
        | nil => exact .inl ⟨[], by simp, hmid.symm⟩
        | cons d more =>
          obtain ⟨rfl, -⟩ := List.cons.inj hmid
          exact .inr ⟨more, rfl⟩
    obtain ⟨later, rfl, hlater⟩ | ⟨more, rfl⟩ := hcases
    · obtain ⟨done, d, rest, rfl, hcall, hrows⟩ := ih hlater
      refine ⟨c :: done, d, rest, rfl, hcall, ?_⟩
      rw [List.filterMap_append, hrow, hrows, List.filterMap_cons]
      cases row? c <;> rfl
    · obtain ⟨hcall, hrows⟩ := hblock.callsFirst.call he
      exact ⟨[], c, cs, rfl, hcall, hrows⟩

theorem not_isCall_of_validateQueues {σ : Type} (w : Worker σ) (queues : List String) (x : σ) :
    ∀ e ∈ (validateQueues w queues x).1, ¬e.IsCall := by
  induction queues generalizing x with
  | nil => simp [validateQueues]
  | cons q queues ih =>
    rw [validateQueues]
    rcases w.validate q x with ⟨_ | _, y⟩ <;>
      exact List.forall_mem_cons.mpr ⟨id, List.forall_mem_cons.mpr ⟨id, ih y⟩⟩

theorem split_right {xs ys : List Event} (h : xs ++ ys = before ++ e :: after) (he : e ∉ xs) :
    ∃ more, before = xs ++ more ∧ ys = more ++ e :: after := by
  obtain ⟨mid, hmid, hys⟩ | ⟨mid, rfl, hmid⟩ := List.append_eq_append_iff.mp h
  · exact ⟨mid, hmid, hys⟩
  · cases mid with
    | nil => exact ⟨[], by simp, hmid.symm⟩
    | cons d mid =>
      obtain ⟨rfl, -⟩ := List.cons.inj hmid
      exact absurd (by simp) he

theorem split_left {xs : List Event} {d : Event} (h : xs ++ [d] = before ++ e :: after)
    (he : e ≠ d) : ∃ more, xs = before ++ e :: more := by
  obtain rfl | ⟨more, last, rfl⟩ := List.eq_nil_or_concat after
  · obtain ⟨-, hd⟩ := List.append_inj' h rfl
    exact absurd (List.cons.inj hd).1.symm he
  · have hlast : xs ++ [d] = (before ++ e :: more) ++ [last] := by simpa using h
    obtain ⟨rfl, -⟩ := List.append_inj' hlast rfl
    exact ⟨more, rfl⟩

end Calls

/-- A vacant path, or a file with the rows of the first configurations. -/
def Begun (path : String) (s : Schema) (plan : List Configuration)
    (row? : Configuration → Option Row) (w : Workspace) : Prop :=
  Vacant path w ∨ ∃ pre, pre <+: plan ∧
    view path w = .ok (.file (Sink.sheet s (pre.filterMap row?)))

theorem Begun.ready {path : String} {s : Schema} {plan : List Configuration}
    {row? : Configuration → Option Row} {w : Workspace} {resume : Bool}
    (h : Begun path s plan row? w) (hr : resume = true ∨ Vacant path w) :
    ∃ pre, pre <+: plan ∧ Ready path s resume w (Sink.sheet s (pre.filterMap row?))
      ((pre.filterMap row?).map fun r => s.keyOf r.key) := by
  by_cases hv : Vacant path w
  · refine ⟨[], List.nil_prefix, .inl ⟨hv, ?_, rfl⟩⟩
    exact List.append_nil _
  · obtain hv' | ⟨pre, hpre, hfile⟩ := h
    · exact absurd hv' hv
    · have hne := Sink.sheet_ne_nil s (pre.filterMap row?)
      exact ⟨pre, hpre, .inr ⟨hr.resolve_right hv, hne, hfile, Sink.keysIn_sheet s _⟩⟩

variable {path : String} {m : Matrix} {behaviour : Behaviour} {settings : Calibration.Settings}
  {policy : TimeBound.Policy} {a : Attempt} {w t u : Workspace} {opened : Bytes}
  {keys : List RowKey} {blocks : List (List Event)} {b : Walk (Workspace × a.State)}

structure Attempt.Plays (behaviour : Behaviour) (settings : Calibration.Settings)
    (policy : TimeBound.Policy) (m : Matrix) (a : Attempt) : Prop where
  memory : a.memory = .fresh settings policy
  shown : ∃ seen, behaviour.Shown m.queues a.worker a.probe seen ∧ seen a.state fun _ => 0

theorem Attempt.Plays.layout_eq (ha : a.Plays behaviour settings policy m) :
    layout m a.memory = .forDelays m.delays settings.minDelay := by
  rw [layout, ha.memory]
  rfl

theorem Attempt.Plays.valid (ha : a.Plays behaviour settings policy m) (path : String)
    (w : Workspace) : (validateQueues (a.host path).worker m.queues (w, a.state)).2.1 = [] := by
  obtain ⟨seen, hs, hzero⟩ := ha.shown
  exact ((hs.apart (sinkFile path)).validateQueues (fun _ h => h) hzero).1

theorem keyed_layout (m : Matrix) (memory : Memory) (keys : List RowKey) :
    Keyed ⟨layout m memory, m.runs, keys⟩ (behaviour.row? settings policy m.runs)
      m.plan.configurations where
  key := by
    intro c r h
    unfold Behaviour.row? at h
    cases hk : settings.answered behaviour.answer c.delay with
    | error e => rw [hk] at h; cases h
    | ok k =>
      rw [hk] at h
      dsimp only at h
      cases hrow : reduce c (behaviour.outcomes c k (policy.bound c.ops c.delay) 1 m.runs.toNat)
          m.runs with
      | error missing => rw [hrow] at h; cases h
      | ok row =>
        rw [hrow] at h
        obtain rfl := Option.some.inj h
        exact key_of_reduce hrow
  injective := fun _ hc _ hd h => Schema.keyOf_injective_on_plan hc hd h

theorem resumed_plan (memory : Memory) {pre done : List Configuration}
    (hn : m.plan.configurations.Nodup) (hpre : pre <+: m.plan.configurations)
    (hdone : done <+: m.plan.configurations) :
    ∃ longer, longer <+: m.plan.configurations ∧ done <+: longer ∧
      pre.filterMap (behaviour.row? settings policy m.runs) ++
          done.filterMap (newRow? ⟨layout m memory, m.runs,
            (pre.filterMap (behaviour.row? settings policy m.runs)).map fun r =>
              (layout m memory).keyOf r.key⟩ (behaviour.row? settings policy m.runs)) =
        longer.filterMap (behaviour.row? settings policy m.runs) :=
  resumed_rows (keyed_layout m memory _) hn hpre hdone rfl

theorem Course.shown (hc : Course a path m w opened keys u blocks b)
    (ha : a.Plays behaviour settings policy m) (hn : m.plan.configurations.Nodup) :
    List.Forall₂ (fun c block => block.filterMap Event.row? =
        (newRow? ⟨layout m a.memory, m.runs, keys⟩ (behaviour.row? settings policy m.runs) c).toList ∧
      ∃ known, Block ⟨layout m a.memory, m.runs, keys⟩ policy known c block)
      m.plan.configurations blocks := by
  obtain ⟨seen, hs, hzero⟩ := ha.shown
  have hchecked : seen (checked (a.host path) m (w, a.state)).2 fun _ => 0 :=
    ((hs.apart (sinkFile path)).validateQueues (fun _ h => h) hzero).2
  have hmemory : a.memory.Sound settings policy := by
    rw [ha.memory]
    exact Memory.sound_fresh
  have hagrees : a.memory.calibrator.Agrees behaviour.answer := by
    rw [ha.memory]
    exact Calibrator.agrees_empty settings
  exact hc.visits.shown hs hn hchecked (fun _ _ => rfl) hmemory hagrees

theorem Course.rows (hc : Course a path m w opened keys u blocks b)
    (ha : a.Plays behaviour settings policy m) (hn : m.plan.configurations.Nodup) :
    blocks.flatten.filterMap Event.row? = m.plan.configurations.filterMap
      (newRow? ⟨layout m a.memory, m.runs, keys⟩ (behaviour.row? settings policy m.runs)) :=
  filterMap_flatten_of_forall₂ ((hc.shown ha hn).imp fun _ _ h => h.1)

theorem Begun.reaches (hn : m.plan.configurations.Nodup) (ha : a.Plays behaviour settings policy m)
    (h : Begun path (layout m a.memory) m.plan.configurations
      (behaviour.row? settings policy m.runs) w) (hr : a.resume = true ∨ Vacant path w)
    {before : List Event} (ht : a.Reaches path m w before t) :
    Begun path (layout m a.memory) m.plan.configurations (behaviour.row? settings policy m.runs)
      t := by
  obtain ⟨pre, hpre, hready⟩ := h.ready hr
  obtain ⟨u, blocks, b, hc⟩ := exists_course hready (ha.valid path w)
  obtain ⟨-, rfl⟩ | ⟨events, -, hevents, hh⟩ := hc.reaches ht
  · exact h
  · have hrows := rows_mono hevents
    rw [hc.rows ha hn] at hrows
    obtain ⟨done, hdone, heq⟩ := prefix_filterMap hrows
    obtain ⟨longer, hlonger, -, hall⟩ := resumed_plan a.memory hn hpre hdone
    rw [heq, Sink.sheet_append, hall] at hh
    exact .inr ⟨longer, hlonger, hh.view⟩

theorem Left.begun (hn : m.plan.configurations.Nodup)
    (hl : Left path m (Attempt.Plays behaviour settings policy m) w) :
    Begun path (.forDelays m.delays settings.minDelay) m.plan.configurations
      (behaviour.row? settings policy m.runs) w := by
  induction hl with
  | vacant hv => exact .inl hv
  | headless hw hv ht ih => exact .inl (Sink.vacant_of_start hv ht).closed
  | cut hw ha hr ht ih =>
    rw [← ha.layout_eq] at ih ⊢
    obtain hv | hfile := ih.reaches hn ha hr ht
    · exact .inl hv.closed
    · exact .inr hfile

theorem Begun.ending (hn : m.plan.configurations.Nodup) (ha : a.Plays behaviour settings policy m)
    (h : Begun path (layout m a.memory) m.plan.configurations
      (behaviour.row? settings policy m.runs) w) (hr : a.resume = true ∨ Vacant path w) :
    (∃ findings, (a.ending path m w).result = .ok findings) ∧
      view path (a.ending path m w).world.1 = .ok (.file (Sink.sheet (layout m a.memory)
        (m.plan.configurations.filterMap (behaviour.row? settings policy m.runs)))) := by
  obtain ⟨pre, hpre, hready⟩ := h.ready hr
  obtain ⟨u, blocks, b, hc⟩ := exists_course hready (ha.valid path w)
  refine ⟨hc.result, ?_⟩
  have hh := (hc.visits.happened a.resume).holds hc.visits.unopened hc.holds
  obtain ⟨longer, hlonger, hwhole, hall⟩ := resumed_plan a.memory hn hpre (List.prefix_refl _)
  have heq : longer = m.plan.configurations :=
    hlonger.eq_of_length_le hwhole.length_le
  rw [hc.rows ha hn, Sink.sheet_append, hall, heq] at hh
  rw [hc.world]
  exact hh.view

theorem Attempt.Plays.at_call (ha : a.Plays behaviour settings policy m)
    (hn : m.plan.configurations.Nodup) (hv : Vacant path w) {before after : List Event} {e : Event}
    (hs : (a.ending path m w).events = before ++ e :: after) (he : e.IsCall) :
    ∃ done c rest, m.plan.configurations = done ++ c :: rest ∧ e.CallFor c ∧
      (∃ t, a.Reaches path m w before t) ∧ ∀ t, a.Reaches path m w before t →
        view path t = .ok (.file (Sink.sheet (layout m a.memory)
          (done.filterMap (behaviour.row? settings policy m.runs)))) := by
  obtain ⟨u, blocks, b, hc⟩ := exists_course (.inl ⟨hv, rfl, rfl⟩) (ha.valid path w)
  have hnew : newRow? ⟨layout m a.memory, m.runs, []⟩ (behaviour.row? settings policy m.runs) =
      behaviour.row? settings policy m.runs := by
    funext c
    exact if_neg List.not_mem_nil
  have hblocks := hc.shown ha hn
  rw [hnew] at hblocks
  have hchecks : e ∉ a.checks path m w := fun h => not_isCall_of_validateQueues _ _ _ e h he
  have hstart : e ∉ [Event.noticed .sweepStarted] := by
    rintro h
    rw [List.mem_singleton.mp h] at he
    exact he
  have hend : e ≠ .noticed .sweepFinished := by
    rintro rfl
    exact he
  have hsplit := hs
  rw [hc.events] at hsplit
  obtain ⟨more, rfl, hmore⟩ := split_right hsplit hchecks
  obtain ⟨later, hlater⟩ := split_left hmore hend
  have hfirst : [.noticed .sweepStarted] ++ blocks.flatten = more ++ e :: later := hlater
  obtain ⟨pre, rfl, hpre⟩ := split_right hfirst hstart
  obtain ⟨done, c, rest, hplan, hcall, hrows⟩ := call_of_blocks hblocks hpre he
  refine ⟨done, c, rest, hplan, hcall, ?_, ?_⟩
  · obtain ⟨findings, hok⟩ := hc.result
    have hall := run_happened hok
    have hevents : (a.ending path m w).events = _ := hs
    rw [Attempt.ending] at hevents
    rw [hevents] at hall
    obtain ⟨⟨⟨t, x⟩, k⟩, hbefore, -⟩ := hall.split
    exact ⟨t, ⟨_, hs.symm⟩, x, k, hbefore⟩
  · intro t ht
    obtain ⟨hp, -⟩ | ⟨pre', hpre, -, hh⟩ := hc.reaches ht
    · have hlength := hp.length_le
      simp only [List.length_append, List.length_singleton] at hlength
      omega
    · obtain rfl : pre = pre' := by simpa using hpre
      rw [hrows] at hh
      exact hh.view

/--
At every call of a sweep on a vacant path, the file has the header and the rows of the
configurations before, and nothing else is read in it. However often the sweep is cut off and
resumed, the attempt that comes to its end leaves the file that a sweep leaves which is never cut
off.
-/
theorem interrupted_sweeps_agree (hq : m.queues.Nodup) (ht : m.threadPairs.Nodup)
    (hs : m.sizes.Nodup) (hd : m.delays.Nodup) (behaviour : Behaviour)
    (settings : Calibration.Settings) (policy : TimeBound.Policy) (path : String) :
    let s := Schema.forDelays m.delays settings.minDelay
    let row? := behaviour.row? settings policy m.runs
    let Plays := Attempt.Plays behaviour settings policy m
    (∀ rows, (Csv.records (Sink.sheet s rows)).map Csv.Record.texts? =
        some s.header :: rows.map fun r => some (s.record r)) ∧
    (∀ a w, Plays a → Vacant path w → ∀ before e after,
        (a.ending path m w).events = before ++ e :: after → e.IsCall →
        ∃ done c rest, m.plan.configurations = done ++ c :: rest ∧ e.CallFor c ∧
          (∃ t, a.Reaches path m w before t) ∧ ∀ t, a.Reaches path m w before t →
            view path t = .ok (.file (Sink.sheet s (done.filterMap row?)))) ∧
      ∀ a b v w, Plays a → Plays b → Left path m Plays w → (a.resume = true ∨ Vacant path w) →
        Vacant path v →
        (∃ findings, (a.ending path m w).result = .ok findings) ∧
          view path (a.ending path m w).world.1 =
            .ok (.file (Sink.sheet s (m.plan.configurations.filterMap row?))) ∧
          view path (b.ending path m v).world.1 = view path (a.ending path m w).world.1 := by
  intro s row? Plays
  have hplan : m.plan.configurations.Nodup := Matrix.nodup_plan hq ht hs hd
  refine ⟨Sink.texts?_sheet s, ?_, ?_⟩
  · intro a w ha hv before e after hevents he
    have hcall := ha.at_call hplan hv hevents he
    rwa [ha.layout_eq] at hcall
  · intro a b v w ha hb hw hr hv
    have hbegun := hw.begun hplan
    have hvacant : Begun path s m.plan.configurations row? v := .inl hv
    rw [← ha.layout_eq] at hbegun
    obtain ⟨hok, hfile⟩ := hbegun.ending hplan ha hr
    rw [show s = layout m b.memory from hb.layout_eq.symm] at hvacant
    obtain ⟨-, hfile'⟩ := hvacant.ending hplan hb (.inr hv)
    rw [ha.layout_eq] at hfile
    rw [hb.layout_eq] at hfile'
    exact ⟨hok, hfile, hfile'.trans hfile.symm⟩

def scoring : Behaviour := ⟨fun _ _ _ _ => .success 1, fun _ => .ok "1\n1\n"⟩

def resuming : Attempt :=
  ⟨Configuration → Nat, scoring.worker, scoring.probe, fun _ => 0, .fresh .standard .standard, true⟩

theorem resuming_plays (m : Matrix) : resuming.Plays scoring .standard .standard m :=
  ⟨rfl, Eq, scoring.shown m.queues, rfl⟩

theorem interrupted_sweeps_agree_two_sizes :
    let m : Matrix := ⟨["A"], [⟨1, 1⟩], [64, 128], [0], 1000, 2⟩
    let file := Sink.sheet .withoutDelay [rowOf ⟨"A", ⟨1, 1⟩, 64, 1000, 0⟩ 2 [1, 1],
      rowOf ⟨"A", ⟨1, 1⟩, 128, 1000, 0⟩ 2 [1, 1]]
    view "out.csv" (resuming.ending "out.csv" m blank).world.1 = .ok (.file file) ∧
      ∀ before t, resuming.Reaches "out.csv" m blank before t →
        view "out.csv" (resuming.ending "out.csv" m t.closed).world.1 = .ok (.file file) := by
  intro m file
  have hm := resuming_plays m
  have hrows : m.plan.configurations.filterMap (scoring.row? .standard .standard m.runs) =
    [rowOf ⟨"A", ⟨1, 1⟩, 64, 1000, 0⟩ 2 [1, 1], rowOf ⟨"A", ⟨1, 1⟩, 128, 1000, 0⟩ 2 [1, 1]] := rfl
  have hlayout : Schema.forDelays m.delays Calibration.Settings.standard.minDelay = .withoutDelay := by
    decide
  obtain ⟨-, -, hagree⟩ := interrupted_sweeps_agree (m := m) (by decide) (by decide) (by decide)
    (by decide) scoring .standard .standard "out.csv"
  rw [hrows, hlayout] at hagree
  constructor
  · exact (hagree resuming resuming blank blank hm hm (.vacant vacant_blank) (.inl rfl)
      vacant_blank).2.1
  · intro before t ht
    have hleft := Left.cut (.vacant vacant_blank) hm (.inl rfl) ht
    exact (hagree resuming resuming blank t.closed hm hm hleft (.inl rfl) vacant_blank).2.1

end Sweep

end CalibratedSweep
