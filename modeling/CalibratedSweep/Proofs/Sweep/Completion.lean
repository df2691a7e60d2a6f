import CalibratedSweep.Proofs.Sweep.Counters
import CalibratedSweep.Proofs.Sweep.Refusal

namespace CalibratedSweep.Sweep

open Workspace (Holds Vacant blank sinkFile vacant_blank view)

section File

variable {path : String} {s : Schema} {w : Workspace}

def Written (path : String) (s : Schema) (w : Workspace) : Prop :=
  Vacant path w ∨ ∃ rows, view path w = .ok (.file (Sink.sheet s rows))

theorem Written.ready (h : Written path s w) : ∃ rows,
    Ready path s true w (Sink.sheet s rows) (rows.map fun r => s.keyOf r.key) := by
  obtain hv | ⟨rows, hview⟩ := h
  · exact ⟨[], .inl ⟨hv, List.append_nil _, rfl⟩⟩
  · exact ⟨rows, .inr ⟨rfl, Sink.sheet_ne_nil s rows, hview, Sink.keysIn_sheet s rows⟩⟩

theorem Written.opens (h : Written path s w) (resume : Bool) : ∃ rows,
    (if resume then Sink.completed (sinkFile path) s w else .ok []) =
        .ok (rows.map fun r => s.keyOf r.key) ∧
      ∃ t, openFile (sinkFile path) s resume w = (.ok (), t) ∧ Holds path (Sink.sheet s rows) t := by
  cases resume with
  | true =>
    obtain ⟨rows, hready⟩ := h.ready
    exact ⟨rows, hready.opens⟩
  | false =>
    have hsheet : Sink.sheet s [] = Sink.headerLine s := List.append_nil _
    refine ⟨[], rfl, ?_⟩
    rw [hsheet]
    obtain hv | ⟨rows, hview⟩ := h
    · exact Sink.create_vacant hv s
    · exact Sink.create_of_view hview s

end File

section Fates

variable {set : Setting} {known : UInt64 → Option CalibrationResult} {c : Configuration}
  {cs : List Configuration} {fate : Fate} {fates : List Fate}

def Fate.isOpen (fate : Fate) : Bool := fate.isUncalibrated || fate.missing?.isSome

theorem Fate.Of.cases_row (hf : Fate.Of set known c fate) :
    (fate.row? = none ∧ (fate.isOpen = true ↔
        set.schema.keyOf (.ofConfiguration c set.runs) ∉ set.completed)) ∨
      ∃ row, fate.row? = some row ∧ fate.isOpen = false ∧ row.key = .ofConfiguration c set.runs := by
  cases hf with
  | resumed hk => exact .inl ⟨rfl, iff_of_false Bool.false_ne_true (not_not_intro hk)⟩
  | uncalibrated hk hc => exact .inl ⟨rfl, iff_of_true rfl hk⟩
  | incomplete hk hc bound hl hb hrow => exact .inl ⟨rfl, iff_of_true rfl hk⟩
  | complete hk hc bound hl => exact .inr ⟨_, rfl, rfl, rfl⟩

def newKeys (set : Setting) (fates : List Fate) : List RowKey :=
  (fates.filterMap Fate.row?).map fun r => set.schema.keyOf r.key

theorem key_of_newKeys (hf : List.Forall₂ (Fate.Of set known) cs fates) {k : RowKey}
    (hk : k ∈ newKeys set fates) :
    ∃ c ∈ cs, k = set.schema.keyOf (.ofConfiguration c set.runs) := by
  induction hf with
  | nil => simp [newKeys] at hk
  | @cons c fate cs fates hfate _ ih =>
    have htail (hk : k ∈ newKeys set fates) :
        ∃ d ∈ c :: cs, k = set.schema.keyOf (.ofConfiguration d set.runs) := by
      obtain ⟨d, hd, hkey⟩ := ih hk
      exact ⟨d, List.mem_cons_of_mem c hd, hkey⟩
    obtain ⟨hrow, -⟩ | ⟨row, hrow, -, hkey⟩ := hfate.cases_row
    · rw [newKeys, List.filterMap_cons, hrow] at hk
      exact htail hk
    · rw [newKeys, List.filterMap_cons, hrow, List.map_cons, List.mem_cons, hkey] at hk
      obtain rfl | hk := hk
      · exact ⟨c, List.mem_cons_self, rfl⟩
      · exact htail hk

theorem keys_of_closed (hf : List.Forall₂ (Fate.Of set known) cs fates)
    (hall : ∀ fate ∈ fates, fate.isOpen = false) :
    ∀ c ∈ cs, set.schema.keyOf (.ofConfiguration c set.runs) ∈
      set.completed ++ newKeys set fates := by
  induction hf with
  | nil => simp
  | @cons c fate cs fates hfate _ ih =>
    have hclosed := hall fate List.mem_cons_self
    have hrest := ih fun f hf => hall f (List.mem_cons_of_mem fate hf)
    intro d hd
    obtain ⟨hrow, hopen⟩ | ⟨row, hrow, -, hkey⟩ := hfate.cases_row
    · rw [newKeys, List.filterMap_cons, hrow]
      obtain rfl | hd := List.mem_cons.mp hd
      · have hin : ¬set.schema.keyOf (.ofConfiguration d set.runs) ∉ set.completed := by
          rw [← hopen, hclosed]
          exact Bool.false_ne_true
        exact List.mem_append_left _ (not_not.mp hin)
      · exact hrest d hd
    · rw [newKeys, List.filterMap_cons, hrow, List.map_cons, hkey]
      obtain rfl | hd := List.mem_cons.mp hd
      · simp
      · have hmem := List.mem_append.mp (hrest d hd)
        rw [List.mem_append, List.mem_cons]
        exact hmem.imp_right .inr

theorem missing_of_open (hf : List.Forall₂ (Fate.Of set known) cs fates) (hn : cs.Nodup)
    (hinj : ∀ c ∈ cs, ∀ d ∈ cs, set.schema.keyOf (.ofConfiguration c set.runs) =
      set.schema.keyOf (.ofConfiguration d set.runs) → c = d)
    (hopen : ∃ fate ∈ fates, fate.isOpen = true) :
    ∃ c ∈ cs, set.schema.keyOf (.ofConfiguration c set.runs) ∉
      set.completed ++ newKeys set fates := by
  induction hf with
  | nil => simp at hopen
  | @cons c fate cs fates hfate hfates ih =>
    obtain ⟨hnot, hn⟩ := List.nodup_cons.mp hn
    have hinj' : ∀ c ∈ cs, ∀ d ∈ cs, set.schema.keyOf (.ofConfiguration c set.runs) =
        set.schema.keyOf (.ofConfiguration d set.runs) → c = d := fun c hc d hd =>
      hinj c (List.mem_cons_of_mem _ hc) d (List.mem_cons_of_mem _ hd)
    have hne {d : Configuration} (hd : d ∈ cs) : set.schema.keyOf (.ofConfiguration c set.runs) ≠
        set.schema.keyOf (.ofConfiguration d set.runs) := by
      intro he
      have hcd := hinj c List.mem_cons_self d (List.mem_cons_of_mem _ hd) he
      exact hnot (hcd ▸ hd)
    obtain ⟨f, hmem, hf⟩ := hopen
    -- Either the head is left open, and rows of the others have other keys, or one behind it is.
    by_cases hhead : fate.isOpen = true
    · obtain ⟨hrow, hiff⟩ | ⟨row, -, hclosed, -⟩ := hfate.cases_row
      · refine ⟨c, List.mem_cons_self, ?_⟩
        rw [newKeys, List.filterMap_cons, hrow, List.mem_append, not_or]
        refine ⟨hiff.mp hhead, fun hk => ?_⟩
        obtain ⟨d, hd, he⟩ := key_of_newKeys hfates hk
        exact hne hd he
      · rw [hclosed] at hhead
        exact absurd hhead Bool.false_ne_true
    · have htail : f ∈ fates := by
        obtain rfl | htail := List.mem_cons.mp hmem
        · exact absurd hf hhead
        · exact htail
      obtain ⟨d, hd, hkey⟩ := ih hn hinj' ⟨f, htail, hf⟩
      refine ⟨d, List.mem_cons_of_mem _ hd, ?_⟩
      obtain ⟨hrow, -⟩ | ⟨row, hrow, -, hrk⟩ := hfate.cases_row
      · rw [newKeys, List.filterMap_cons, hrow]
        exact hkey
      · rw [List.mem_append, not_or] at hkey
        rw [newKeys, List.filterMap_cons, hrow, List.map_cons, List.mem_append, List.mem_cons, hrk,
          not_or, not_or]
        exact ⟨hkey.1, (hne hd).symm, hkey.2⟩

theorem Fate.isOpen_eq_false_iff (fate : Fate) :
    fate.isOpen = false ↔ fate.missing? = none ∧ ¬fate.isUncalibrated = true := by
  cases fate <;> simp [isOpen, missing?, isUncalibrated]

theorem allComplete_iff {n : Nat} {b : Summary} (ht : Tally (.start n) fates b) :
    b.allComplete = true ↔ ∀ fate ∈ fates, fate.isOpen = false := by
  have hincomplete := ht.incomplete.trans (Nat.zero_add _)
  have hskipped := ht.calibrationSkipped.trans (Nat.zero_add _)
  rw [Summary.allComplete, Bool.and_eq_true, beq_iff_eq, beq_iff_eq, hincomplete, hskipped,
    List.length_eq_zero_iff, List.filterMap_eq_nil_iff, List.countP_eq_zero]
  constructor
  · rintro ⟨hmissing, hcalibrated⟩ fate hf
    exact fate.isOpen_eq_false_iff.mpr ⟨hmissing fate hf, hcalibrated fate hf⟩
  · intro h
    exact ⟨fun fate hf => (fate.isOpen_eq_false_iff.mp (h fate hf)).1,
      fun fate hf => (fate.isOpen_eq_false_iff.mp (h fate hf)).2⟩

end Fates

section Again

variable {σ : Type} {h : Host σ} {set : Setting} {cs : List Configuration} {a b : Walk σ}
  {blocks : List (List Event)}

theorem Visits.all_done (hv : Visits h set cs a blocks b)
    (hk : ∀ c ∈ cs, set.schema.keyOf (.ofConfiguration c set.runs) ∈ set.completed) :
    blocks.flatten = [] ∧ b.world = a.world ∧ b.memory = a.memory ∧
      b.summary = { a.summary with resumed := a.summary.resumed + cs.length } := by
  induction hv with
  | nil a => exact ⟨rfl, rfl, rfl, rfl⟩
  | @cons c cs a b d block blocks hv _ ih =>
    obtain ⟨hblocks, hworld, hmemory, hsummary⟩ := ih fun d hd => hk d (List.mem_cons_of_mem c hd)
    have hc := hk c List.mem_cons_self
    cases hv with
    | done _ hw hm hs hi =>
      refine ⟨hblocks, hworld.trans hw, hmemory.trans hm, ?_⟩
      rw [hsummary, hs, List.length_cons, Nat.add_assoc, Nat.add_comm 1]
    | uncalibrated hnot => exact absurd hc hnot
    | incomplete hnot => exact absurd hc hnot
    | complete hnot => exact absurd hc hnot

end Again

section Run

variable {path : String} {σ : Type} {w : Worker σ} {p : Probe σ} {m : Matrix} {resume : Bool}
  {memory : Memory} {x : Workspace} {y : σ} {findings : Findings}

theorem Written.ending (hw : Written path (layout m memory) x)
    (hok : (run (.apart w p (sinkFile path)) m resume memory (x, y)).result = .ok findings) :
    let r := run (.apart w p (sinkFile path)) m resume memory (x, y)
    let s := layout m memory
    ∃ rows fates, view path r.world.1 =
        .ok (.file (Sink.sheet s (rows ++ fates.filterMap Fate.row?))) ∧
      List.Forall₂ (Fate.Of ⟨s, m.runs, rows.map fun r => s.keyOf r.key⟩
        r.memory.calibrator.known?) m.plan.configurations fates ∧
      Tally (.start m.plan.configurations.length) fates findings.summary ∧
      r.memory.calibrator.settings = memory.calibrator.settings := by
  dsimp only
  obtain ⟨rows, hc, t, ht, hh⟩ := hw.opens resume
  obtain ⟨blocks, b, hv, hrun⟩ := ending_apart hc ht hok
  obtain ⟨fates, hfates, -, hrows, -, htally⟩ := hv.fates
  have hend := (hv.happened resume).holds hv.unopened hh
  have hgrows := hv.grows
  rw [hrows, Sink.sheet_append] at hend
  rw [hrun] at hok ⊢
  cases hok
  exact ⟨rows, fates, hend.view, hfates, htally, hgrows.1⟩

/-- Where every row is there already, the next attempt only validates the queues. -/
theorem Attempt.nothing_left (a : Attempt) (hr : a.resume = true) {rows : List Row}
    (hview : view path x = .ok (.file (Sink.sheet (layout m a.memory) rows)))
    (hk : ∀ c ∈ m.plan.configurations, (layout m a.memory).keyOf (.ofConfiguration c m.runs) ∈
      rows.map fun r => (layout m a.memory).keyOf r.key) :
    let n := a.ending path m x
    let v := a.worker.validateAll m.queues a.state
    view path n.world.1 = view path x ∧ Idle n a.memory v.2 ∧
      (rejectedQueues m.queues v.1 ≠ [] →
        n.result = .error (.invalidQueues (rejectedQueues m.queues v.1))) ∧
      (rejectedQueues m.queues v.1 = [] → ∃ again, n.result = .ok again ∧
        again.summary = { Summary.start m.plan.configurations.length with
          resumed := m.plan.configurations.length }) := by
  dsimp only
  have hcalls := not_isCall_of_validateQueues (a.host path).worker m.queues (x, a.state)
  have hvalidate : (a.host path).worker.validateAll m.queues (x, a.state) = _ :=
    validateAll_apart a.worker a.probe (sinkFile path) m.queues x a.state
  obtain ⟨-, hinvalid, hchecked⟩ := validateQueues_eq (a.host path).worker m.queues (x, a.state)
  have hworld : checked (a.host path) m (x, a.state) =
      (x, (a.worker.validateAll m.queues a.state).2) := by
    rw [checked, hchecked, hvalidate]
  rw [hvalidate] at hinvalid
  dsimp only at hinvalid
  rw [← hinvalid]
  by_cases hq : (validateQueues (a.host path).worker m.queues (x, a.state)).2.1 = []
  · have hready : Ready path (layout m a.memory) a.resume x _ _ :=
      .inr ⟨hr, Sink.sheet_ne_nil _ rows, hview, Sink.keysIn_sheet _ rows⟩
    obtain ⟨hc, t, ht, hh⟩ := hready.opens
    obtain ⟨again, hok⟩ := run_ok (w := a.worker) (p := a.probe) hq hc ht
    obtain ⟨blocks, b, hv, hrun⟩ := ending_apart hc ht hok
    obtain ⟨hblocks, hw, hm, hs⟩ := hv.all_done hk
    have hending : a.ending path m x = _ := hrun
    have hstate := congrArg Prod.snd hworld
    rw [hending, hblocks, hw, hm, hs, hq]
    refine ⟨hh.view.trans hview.symm, ⟨?_, rfl, hstate⟩, fun hne => absurd rfl hne,
      fun _ => ⟨_, rfl, ?_⟩⟩
    · intro e he
      obtain he | he := List.mem_append.mp he
      · exact hcalls e he
      · simp only [List.cons_append, List.nil_append, List.mem_cons, List.not_mem_nil,
          or_false] at he
        obtain rfl | rfl := he <;> exact id
    · simp only [begun, Summary.start, Nat.zero_add]
  · rw [Attempt.ending, run_of_invalid hq, hworld]
    exact ⟨rfl, ⟨hcalls, rfl, rfl⟩, fun _ => rfl, fun he => absurd (List.map_eq_nil_iff.mp he) hq⟩

/--
A complete sweep leaves a row for everything planned. The next attempt with the same settings makes
no call and leaves the file as it is, and if it is not stopped by a rejected queue it finds all rows
done. A sweep that is not complete leaves something without a row, unless the plan repeats itself.
-/
theorem all_complete_stored (hw : Written path (layout m memory) x)
    (hok : (run (.apart w p (sinkFile path)) m resume memory (x, y)).result = .ok findings) :
    let r := run (.apart w p (sinkFile path)) m resume memory (x, y)
    let s := layout m memory
    ∃ keys, Sink.completed (sinkFile path) s r.world.1 = .ok keys ∧
      (findings.summary.allComplete = true →
        (∀ c ∈ m.plan.configurations, s.keyOf (.ofConfiguration c m.runs) ∈ keys) ∧
        ∀ a : Attempt, a.resume = true →
          a.memory.calibrator.settings = r.memory.calibrator.settings →
          let n := a.ending path m r.world.1
          let v := a.worker.validateAll m.queues a.state
          view path n.world.1 = view path r.world.1 ∧ Idle n a.memory v.2 ∧
            (rejectedQueues m.queues v.1 ≠ [] →
              n.result = .error (.invalidQueues (rejectedQueues m.queues v.1))) ∧
            (rejectedQueues m.queues v.1 = [] → ∃ again, n.result = .ok again ∧
              again.summary.resumed = again.summary.planned ∧
              again.summary.planned = m.plan.configurations.length ∧
              again.summary.allComplete = true)) ∧
      (m.plan.configurations.Nodup → findings.summary.allComplete = false →
        ∃ c ∈ m.plan.configurations, s.keyOf (.ofConfiguration c m.runs) ∉ keys) := by
  dsimp only
  obtain ⟨rows, fates, hview, hfates, htally, hsettings⟩ := hw.ending hok
  have hkeys := Sink.keysIn_sheet (layout m memory) (rows ++ fates.filterMap Fate.row?)
  have hsplit : (rows ++ fates.filterMap Fate.row?).map (fun r => (layout m memory).keyOf r.key) =
      (rows.map fun r => (layout m memory).keyOf r.key) ++ newKeys ⟨layout m memory, m.runs,
        rows.map fun r => (layout m memory).keyOf r.key⟩ fates := List.map_append
  refine ⟨_, Sink.completed_of_view hview hkeys, fun hcomplete => ?_, fun hn hnot => ?_⟩
  · have hall := keys_of_closed hfates ((allComplete_iff htally).mp hcomplete)
    dsimp only at hall
    rw [← hsplit] at hall
    refine ⟨hall, fun a hr ha => ?_⟩
    have hlayout : layout m memory = layout m a.memory := by
      rw [layout, layout, ha, hsettings]
    rw [hlayout] at hview hall
    obtain ⟨hsame, hidle, hrejected, hvalid⟩ := a.nothing_left hr hview hall
    refine ⟨hsame, hidle, hrejected, fun hv => ?_⟩
    obtain ⟨again, hagain, hsummary⟩ := hvalid hv
    exact ⟨again, hagain, by rw [hsummary]; rfl, by rw [hsummary]; rfl, by rw [hsummary]; rfl⟩
  · have hopen : ∃ fate ∈ fates, fate.isOpen = true := by
      by_contra hclosed
      simp only [not_exists, not_and, Bool.not_eq_true] at hclosed
      rw [(allComplete_iff htally).mpr hclosed] at hnot
      cases hnot
    have hmissing := missing_of_open hfates hn
      (fun c hc d hd => Schema.keyOf_injective_on_plan hc hd) hopen
    rwa [← hsplit] at hmissing

end Run

section Constant

theorem repeatRuns_constant {σ : Type} {w : Worker σ}
    (hw : ∀ c k bound y, w.measure c k bound y = (.success 1, y)) (c : Configuration)
    (k : Calibration) (bound : Duration) (repetition left : Nat) (n : Count) (y : σ) :
    (repeatRuns w c k bound repetition left n y).2.1 = (List.replicate left 1).map .success ∧
      (repeatRuns w c k bound repetition left n y).2.2.2 = y := by
  induction left generalizing repetition n with
  | zero => exact ⟨rfl, rfl⟩
  | succ left ih =>
    obtain ⟨houtcomes, hstate⟩ := ih (repetition + 1)
      ⟨n.summary.countRun (.success 1), n.progress.attempt⟩
    rw [repeatRuns, hw]
    simp only [Outcome.isSuccess, if_true, houtcomes, hstate, List.replicate_succ, List.map_cons,
      and_self]

variable {σ : Type} {w : Worker σ} {p : Probe σ} {path : String} {set : Setting}
  {c : Configuration} {a b : Walk (Workspace × σ)} {events : List Event}

theorem Visit.constant (hv : Visit (.apart w p (sinkFile path)) set c a events b)
    (hw : ∀ c k bound y, w.measure c k bound y = (.success 1, y))
    (hk : set.schema.keyOf (.ofConfiguration c set.runs) ∉ set.completed) {k : Calibration}
    (hc : a.memory.calibrator.known? c.delay = some (.ok k)) :
    b.world.2 = a.world.2 ∧ b.summary.allComplete = a.summary.allComplete := by
  have hw' (c : Configuration) (k : Calibration) (bound : Duration) (x : Workspace × σ) :
      (Host.apart w p (sinkFile path)).worker.measure c k bound x = (.success 1, x) := by
    have hx : (Host.apart w p (sinkFile path)).worker.measure c k bound x =
        ((w.measure c k bound x.2).1, (x.1, (w.measure c k bound x.2).2)) := rfl
    rw [hx, hw]
  cases hv with
  | done hdone => exact absurd hdone hk
  | uncalibrated _ hr he =>
    rw [Calibrator.resolve_of_known hc] at hr
    subst hr
    cases he
  | @incomplete _ r hr k' hk' n n' outcomes world hruns missing hrow =>
    have hall := (repeatRuns_constant hw' c k' (a.memory.bounds.bound c.ops c.delay).1 1
      set.runs.toNat n r.world).1
    rw [hruns] at hall
    dsimp only at hall
    rw [hall, reduce_scores c set.runs List.length_replicate] at hrow
    cases hrow
  | @complete _ r hr k' hk' n n' outcomes world hruns row hrow p t hwrite hm hn hs =>
    have hstate := (repeatRuns_constant hw' c k' (a.memory.bounds.bound c.ops c.delay).1 1
      set.runs.toNat n r.world).2
    rw [Calibrator.resolve_of_known hc] at hr
    rw [hruns, ← hr] at hstate
    have hworld : world = a.world := hstate
    refine ⟨(writeRow_apart hwrite).2.trans (congrArg Prod.snd hworld), ?_⟩
    rw [hs, summary_of_repeatRuns hruns, foldl_countRun, hn]
    rfl

def fickle : Worker Nat where
  validate := fun _ n => (if n = 0 then .ok () else .error ⟨some 1, "gone"⟩, n + 1)
  measure := fun _ _ _ n => (.success 1, n)

def mute : Probe Nat := fun _ n => (.ok "", n)

theorem fickle_completes :
    let m : Matrix := ⟨["A"], [⟨1, 1⟩], [64], [0], 1000, 1⟩
    let r := run (.apart fickle mute (sinkFile "out.csv")) m false (.fresh .standard .standard)
      (blank, 0)
    ∃ findings, r.result = .ok findings ∧ findings.summary.allComplete = true ∧ r.world.2 = 1 := by
  intro m r
  obtain ⟨t, ht, -⟩ := Sink.create_vacant vacant_blank (layout m (.fresh .standard .standard))
  have hopen : openFile (sinkFile "out.csv") (layout m (.fresh .standard .standard)) false blank =
    (.ok (), t) := ht
  have hok : ∃ findings, r.result = .ok findings := run_ok rfl rfl hopen
  obtain ⟨findings, hok⟩ := hok
  obtain ⟨blocks, b, hv, hrun⟩ := ending_apart rfl hopen hok
  have hplan : m.plan.configurations = [⟨"A", ⟨1, 1⟩, 64, 1000, 0⟩] := rfl
  rw [hplan] at hv
  cases hv with
  | cons hv hrest =>
    cases hrest
    obtain ⟨hend, hcomplete⟩ := hv.constant (fun _ _ _ _ => rfl) List.not_mem_nil rfl
    have hr : r = _ := hrun
    rw [hr] at hok ⊢
    cases hok
    exact ⟨_, rfl, hcomplete, hend⟩

theorem completed_then_rejected :
    let m : Matrix := ⟨["A"], [⟨1, 1⟩], [64], [0], 1000, 1⟩
    let h := Host.apart fickle mute (sinkFile "out.csv")
    let r := run h m false (.fresh .standard .standard) (blank, 0)
    Written "out.csv" (layout m (.fresh .standard .standard)) blank ∧
      (∃ findings, r.result = .ok findings ∧ findings.summary.allComplete = true) ∧
      (run h m true r.memory r.world).result = .error (.invalidQueues ["A"]) := by
  intro m h r
  obtain ⟨findings, hok, hcomplete, hstate⟩ := fickle_completes
  have hanswer : (validateQueues h.worker m.queues r.world).2.1 = [("A", ⟨some 1, "gone"⟩)] := by
    have hs : r.world = (r.world.1, 1) := Prod.ext rfl hstate
    rw [hs]
    rfl
  have hrejected : (validateQueues h.worker m.queues r.world).2.1 ≠ [] := by
    rw [hanswer]
    exact List.cons_ne_nil _ _
  refine ⟨.inl vacant_blank, ⟨findings, hok, hcomplete⟩, ?_⟩
  rw [run_of_invalid hrejected, hanswer]
  rfl

theorem all_complete_stored_fickle :
    let m : Matrix := ⟨["A"], [⟨1, 1⟩], [64], [0], 1000, 1⟩
    let s := layout m (.fresh .standard .standard)
    let r := run (.apart fickle mute (sinkFile "out.csv")) m false (.fresh .standard .standard)
      (blank, 0)
    let n := run (.apart steady silent (sinkFile "out.csv")) m true r.memory (r.world.1, ())
    ∃ keys, Sink.completed (sinkFile "out.csv") s r.world.1 = .ok keys ∧
      s.keyOf ⟨"A", 1, 1, 64, 1000, 1, some 0⟩ ∈ keys ∧
      view "out.csv" n.world.1 = view "out.csv" r.world.1 ∧ (∀ e ∈ n.events, ¬e.IsCall) ∧
      ∃ again, n.result = .ok again ∧ again.summary.resumed = 1 ∧
        again.summary.allComplete = true := by
  intro m s r n
  obtain ⟨findings, hok, hcomplete, -⟩ := fickle_completes
  obtain ⟨keys, hkeys, hall, -⟩ := all_complete_stored (.inl vacant_blank) hok
  obtain ⟨hstored, hagain⟩ := hall hcomplete
  obtain ⟨hsame, hidle, -, hvalid⟩ := hagain ⟨Unit, steady, silent, (), r.memory, true⟩ rfl rfl
  obtain ⟨again, hresult, hresumed, hplanned, hcomplete'⟩ := hvalid rfl
  exact ⟨keys, hkeys, hstored _ List.mem_cons_self, hsame, hidle.calls, again, hresult,
    hresumed.trans hplanned, hcomplete'⟩

end Constant

end CalibratedSweep.Sweep
