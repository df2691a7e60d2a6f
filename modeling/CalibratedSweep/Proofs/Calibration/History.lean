import CalibratedSweep.Proofs.Calibration.Calibrator
import CalibratedSweep.Proofs.Calibration.Output
import CalibratedSweep.Proofs.Plan.Distinct
import Mathlib.Data.List.Forall2
/-!
A calibrator over many delays. The probe is called once for each delay that reaches the threshold,
in the order of their first places, and whatever the calibrator says later of a delay is the answer
of that one call.
-/

namespace CalibratedSweep

section Lists

variable {α : Type} [DecidableEq α]

theorem firstsAfter_congr {seen seen' : List α} (h : ∀ x, x ∈ seen ↔ x ∈ seen') (xs : List α) :
    firstsAfter seen xs = firstsAfter seen' xs := by
  induction xs generalizing seen seen' with
  | nil => rfl
  | cons x xs ih =>
    have hx : ∀ y, y ∈ x :: seen ↔ y ∈ x :: seen' := by simp [h]
    rw [firstsAfter, firstsAfter, ih h, ih hx]
    simp only [h]

end Lists

def Probe.askAll {σ : Type} (p : Probe σ) :
    List Calibration.Request → σ → List (Except Calibration.Error String) × σ
  | [], world => ([], world)
  | q :: rest, world =>
    let (answer, world) := p q world
    let (answers, world) := askAll p rest world
    (answer :: answers, world)

namespace Calibrator

structure History (σ : Type) where
  results : List CalibrationResult
  probed : List Calibration.Request
  calibrator : Calibrator
  world : σ

def resolveAll {σ : Type} (p : Probe σ) (k : Calibrator) : List UInt64 → σ → History σ
  | [], world => ⟨[], [], k, world⟩
  | delay :: rest, world =>
    let r := k.resolve p delay world
    let later := resolveAll p r.calibrator rest r.world
    ⟨r.result :: later.results, r.probed.toList ++ later.probed, later.calibrator, later.world⟩

def table (delays : List UInt64) (answers : List (Except Calibration.Error String)) :
    List (UInt64 × CalibrationResult) :=
  List.zipWith (fun delay answer => (delay, interpret delay answer)) delays answers

theorem map_fst_table {delays : List UInt64} {answers : List (Except Calibration.Error String)}
    (h : answers.length = delays.length) : (table delays answers).map Prod.fst = delays := by
  induction delays generalizing answers with
  | nil => rfl
  | cons delay delays ih =>
    cases answers with
    | nil => cases h
    | cons answer answers =>
      have hrest := ih (Nat.succ.inj h)
      exact congrArg (delay :: ·) hrest

theorem tells_table {delays : List UInt64} {answers : List (Except Calibration.Error String)}
    (h : answers.length = delays.length) :
    List.Forall₂ (fun answer entry => Tells entry.1 answer entry.2) answers (table delays answers) := by
  induction delays generalizing answers with
  | nil =>
    obtain rfl := List.length_eq_zero_iff.mp h
    exact .nil
  | cons delay delays ih =>
    cases answers with
    | nil => cases h
    | cons answer answers => exact .cons (interpret_tells delay answer) (ih (Nat.succ.inj h))

variable {σ : Type} {p : Probe σ} {k : Calibrator} {delay : UInt64}

theorem known?_of_le (h : ¬delay < k.settings.minDelay) :
    k.known? delay = k.results.lookup delay := if_neg h

theorem lookup_eq_none_iff_not_mem {results : List (UInt64 × CalibrationResult)} :
    results.lookup delay = none ↔ delay ∉ results.map Prod.fst := by
  rw [List.lookup_eq_none_iff, List.mem_map]
  constructor
  · rintro h ⟨entry, he, rfl⟩
    have hne := h entry he
    simp at hne
  · intro h entry he
    simp only [bne_iff_ne, ne_eq]
    rintro rfl
    exact h ⟨entry, he, rfl⟩

/-- The delays of a list that a calibrator still has to probe, in the order it comes to them. -/
def unprobed (k : Calibrator) (delays : List UInt64) : List UInt64 :=
  firstsAfter (k.results.map Prod.fst) (delays.filter (k.settings.minDelay ≤ ·))

theorem unprobed_of_known {result : CalibrationResult} (h : k.known? delay = some result)
    (delays : List UInt64) : k.unprobed (delay :: delays) = k.unprobed delays := by
  unfold unprobed
  by_cases hmin : delay < k.settings.minDelay
  · rw [List.filter_cons_of_neg]
    simpa using hmin
  · rw [known?_of_le hmin] at h
    have hmem : delay ∈ k.results.map Prod.fst := by
      by_contra hnot
      rw [lookup_eq_none_iff_not_mem.mpr hnot] at h
      cases h
    rw [List.filter_cons_of_pos (by simpa using hmin), firstsAfter, if_pos hmem]

theorem unprobed_of_unknown (h : k.known? delay = none) (result : CalibrationResult)
    (delays : List UInt64) : k.unprobed (delay :: delays) =
      delay :: unprobed { k with results := k.results ++ [(delay, result)] } delays := by
  have hmin : ¬delay < k.settings.minDelay := by
    intro hmin
    rw [known?, if_pos hmin] at h
    cases h
  rw [known?_of_le hmin, lookup_eq_none_iff_not_mem] at h
  unfold unprobed
  rw [List.filter_cons_of_pos (by simpa using hmin), firstsAfter, if_neg h]
  refine congrArg (delay :: ·) (firstsAfter_congr (fun x => ?_) _)
  simp [or_comm]

theorem resolveAll_asks (p : Probe σ) (k : Calibrator) (delays : List UInt64) (world : σ) :
    ∃ answers, answers.length = (k.unprobed delays).length ∧
      (resolveAll p k delays world).probed = (k.unprobed delays).map k.settings.request ∧
      p.askAll (resolveAll p k delays world).probed world =
        (answers, (resolveAll p k delays world).world) ∧
      (resolveAll p k delays world).calibrator =
        ⟨k.settings, k.results ++ table (k.unprobed delays) answers⟩ := by
  induction delays generalizing k world with
  | nil => exact ⟨[], rfl, rfl, rfl, by simp [resolveAll, unprobed, firstsAfter, table]⟩
  | cons delay delays ih =>
    rw [resolveAll]
    cases hk : k.known? delay with
    | some result =>
      rw [resolve_of_known hk, unprobed_of_known hk]
      exact ih k world
    | none =>
      rw [resolve_of_unknown hk]
      rcases hp : p (k.settings.request delay) world with ⟨answer, world'⟩
      rw [unprobed_of_unknown hk (interpret delay answer)]
      -- The rest is resolved by a calibrator that has this answer too.
      obtain ⟨answers, hlength, hprobed, hask, hcal⟩ :=
        ih { k with results := k.results ++ [(delay, interpret delay answer)] } world'
      refine ⟨answer :: answers, congrArg (· + 1) hlength, ?_, ?_, ?_⟩
      · exact congrArg (k.settings.request delay :: ·) hprobed
      · dsimp only [Option.toList_some, List.cons_append, List.nil_append]
        rw [Probe.askAll, hp]
        dsimp only
        rw [hask]
      · dsimp only
        rw [hcal, List.append_assoc]
        rfl

theorem resolveAll_grows (p : Probe σ) (k : Calibrator) (delays : List UInt64) (world : σ) :
    k.Grows (resolveAll p k delays world).calibrator := by
  induction delays generalizing k world with
  | nil => exact .refl k
  | cons delay delays ih => exact (k.resolve_grows p delay world).1.trans (ih _ _)

theorem resolveAll_results (p : Probe σ) (k : Calibrator) (delays : List UInt64) (world : σ) :
    List.Forall₂ (fun delay result =>
      (resolveAll p k delays world).calibrator.known? delay = some result) delays
        (resolveAll p k delays world).results := by
  induction delays generalizing k world with
  | nil => exact .nil
  | cons delay delays ih =>
    have hfirst := (k.resolve_grows p delay world).2
    exact .cons ((resolveAll_grows p _ delays _).2 _ _ hfirst) (ih _ _)

theorem entries_perm (k : Calibrator) : k.entries.Perm k.results := List.mergeSort_perm _ _

theorem entries_increasing (h : (k.results.map Prod.fst).Nodup) :
    (k.entries.map Prod.fst).Pairwise (· < ·) := by
  have hmerge : k.entries.Pairwise fun a b => decide (a.1 ≤ b.1) = true := by
    apply List.pairwise_mergeSort
    · intro a b c hab hbc
      rw [decide_eq_true_eq] at hab hbc ⊢
      exact UInt64.le_trans hab hbc
    · intro a b
      simpa using UInt64.le_total a.1 b.1
  have hsorted : k.entries.Pairwise fun a b => a.1 ≤ b.1 := hmerge.imp of_decide_eq_true
  have hdistinct := ((k.entries_perm.map Prod.fst).nodup_iff).mpr h
  exact ((List.pairwise_map.mpr hsorted).and hdistinct).imp fun hab => UInt64.lt_of_le_of_ne hab.1 hab.2

/--
However a probe answers, a new calibrator calls it once for each delay from the threshold on, in the
order of their first places. Each result is what the answer of that call tells, and so are the entries,
by delay; a delay below the threshold has no busy wait.
-/
theorem resolveAll_probes_once (p : Probe σ) (s : Calibration.Settings) (delays : List UInt64)
    (world : σ) :
    let h := resolveAll p (empty s) delays world
    let fresh := firsts (delays.filter (s.minDelay ≤ ·))
    ∃ answers, answers.length = fresh.length ∧
      h.probed = fresh.map (fun delay => ⟨delay, delay / 10, s.runs, s.checks⟩) ∧
      p.askAll h.probed world = (answers, h.world) ∧
      ∃ told : List (UInt64 × CalibrationResult), told.map Prod.fst = fresh ∧
        List.Forall₂ (fun answer entry => Tells entry.1 answer entry.2) answers told ∧
        List.Forall₂ (fun delay result =>
          if delay < s.minDelay then result = .ok ⟨0, 0⟩
          else told.lookup delay = some result) delays h.results ∧
        h.calibrator.entries.Perm told ∧
        (h.calibrator.entries.map Prod.fst).Pairwise (· < ·) := by
  intro h fresh
  obtain ⟨answers, hlength, hprobed, hask, hcal⟩ := resolveAll_asks p (empty s) delays world
  have hresults := resolveAll_results p (empty s) delays world
  have hkeys : h.calibrator.results = table fresh answers := congrArg Calibrator.results hcal
  have hsettings : h.calibrator.settings = s := congrArg Calibrator.settings hcal
  have hfst : (table fresh answers).map Prod.fst = fresh := map_fst_table hlength
  refine ⟨answers, hlength, hprobed, hask, table fresh answers, hfst, tells_table hlength,
    hresults.imp fun delay result hk => ?_, ?_, ?_⟩
  · change h.calibrator.known? delay = some result at hk
    rw [known?, hsettings, hkeys] at hk
    split
    · rename_i hmin
      rw [if_pos hmin] at hk
      exact (Option.some.inj hk).symm
    · rename_i hmin
      rwa [if_neg hmin] at hk
  · exact hkeys ▸ h.calibrator.entries_perm
  · apply entries_increasing
    rw [hkeys, hfst]
    exact nodup_firsts _

end Calibrator

end CalibratedSweep
