import CalibratedSweep.Proofs.Sweep.Apart
/-!
Surroundings that repeat themselves: a run has an outcome by its configuration, calibration, bound
and repetition, and a probe answers a request always alike. The rows of a plan are then known before
any sweep.
-/

namespace CalibratedSweep

open Workspace (sinkFile)

structure Behaviour where
  outcome : Configuration → Calibration → Duration → Nat → Outcome
  answer : Calibration.Request → Except Calibration.Error String

namespace Behaviour

def outcomes (b : Behaviour) (c : Configuration) (k : Calibration) (bound : Duration)
    (repetition : Nat) : Nat → List Outcome
  | 0 => []
  | left + 1 =>
    if (b.outcome c k bound repetition).isSuccess then
      b.outcome c k bound repetition :: b.outcomes c k bound (repetition + 1) left
    else [b.outcome c k bound repetition]

def row? (b : Behaviour) (settings : Calibration.Settings) (policy : TimeBound.Policy)
    (runs : UInt32) (c : Configuration) : Option Row :=
  match settings.answered b.answer c.delay with
  | .error _ => none
  | .ok k => (reduce c (b.outcomes c k (policy.bound c.ops c.delay) 1 runs.toNat) runs).toOption

def counted (c : Configuration) (n : Configuration → Nat) : Configuration → Nat :=
  fun d => if d = c then n c + 1 else n d

/--
A worker and a probe behave so, in every state that goes with some counts of the runs made: the
state `x` goes with the counts `n` if `seen x n`.
-/
structure Shown {σ : Type} (b : Behaviour) (queues : List String) (w : Worker σ) (p : Probe σ)
    (seen : σ → (Configuration → Nat) → Prop) : Prop where
  validate : ∀ {x n}, seen x n → ∀ q ∈ queues, (w.validate q x).1 = .ok ()
  outcome : ∀ {x n}, seen x n → ∀ c k bound,
    (w.measure c k bound x).1 = b.outcome c k bound (n c + 1)
  answer : ∀ {x n}, seen x n → ∀ q, (p q x).1 = b.answer q
  seen_validate : ∀ {x n}, seen x n → ∀ q, seen (w.validate q x).2 n
  seen_measured : ∀ {x n}, seen x n → ∀ c k bound, seen (w.measure c k bound x).2 (counted c n)
  seen_probe : ∀ {x n}, seen x n → ∀ q, seen (p q x).2 n

variable {σ : Type} {b : Behaviour} {queues : List String} {w : Worker σ} {p : Probe σ}
  {seen : σ → (Configuration → Nat) → Prop}

theorem Shown.apart {ρ : Type} (h : b.Shown queues w p seen) (f : SinkFile ρ) :
    b.Shown queues (Host.apart w p f).worker (Host.apart w p f).probe fun x => seen x.2 where
  validate := fun hs => h.validate hs
  outcome := fun hs => h.outcome hs
  answer := fun hs => h.answer hs
  seen_validate := fun hs => h.seen_validate hs
  seen_measured := fun hs => h.seen_measured hs
  seen_probe := fun hs => h.seen_probe hs

theorem Shown.validateQueues (h : b.Shown queues w p seen) {qs : List String}
    (hq : ∀ q ∈ qs, q ∈ queues) {x : σ} {n : Configuration → Nat} (hs : seen x n) :
    (CalibratedSweep.validateQueues w qs x).2.1 = [] ∧
      seen (CalibratedSweep.validateQueues w qs x).2.2 n := by
  induction qs generalizing x with
  | nil => exact ⟨rfl, hs⟩
  | cons q qs ih =>
    have hok := h.validate hs q (hq q List.mem_cons_self)
    have hseen := h.seen_validate hs q
    rw [CalibratedSweep.validateQueues]
    rcases hv : w.validate q x with ⟨r, y⟩
    rw [hv] at hok hseen
    dsimp only at hok hseen
    subst hok
    exact ih (fun q' hq' => hq q' (List.mem_cons_of_mem _ hq')) hseen

theorem Shown.resolve (h : b.Shown queues w p seen) (k : Calibrator) (delay : UInt64) {x : σ}
    {n : Configuration → Nat} (hs : seen x n) : seen (k.resolve p delay x).world n := by
  cases hk : k.known? delay with
  | some r =>
    rw [Calibrator.resolve_of_known hk]
    exact hs
  | none =>
    rw [Calibrator.resolve_of_unknown hk]
    exact h.seen_probe hs _

theorem Shown.repeatRuns (h : b.Shown queues w p seen) {c : Configuration} (k : Calibration)
    (bound : Duration) (repetition left : Nat) (count : Sweep.Count) {x : σ}
    {n : Configuration → Nat} (hs : seen x n) :
    (Sweep.repeatRuns w c k bound repetition left count x).2.1 =
        b.outcomes c k bound (n c + 1) left ∧
      ∃ n', seen (Sweep.repeatRuns w c k bound repetition left count x).2.2.2 n' ∧
        n' c = n c + (b.outcomes c k bound (n c + 1) left).length ∧ ∀ d, d ≠ c → n' d = n d := by
  induction left generalizing repetition count x n with
  | zero => exact ⟨rfl, n, hs, rfl, fun _ _ => rfl⟩
  | succ left ih =>
    have hfirst := h.outcome hs c k bound
    have hseen := h.seen_measured hs c k bound
    have hcount : counted c n c = n c + 1 := if_pos rfl
    have hother (d : Configuration) (hd : d ≠ c) : counted c n d = n d := if_neg hd
    rw [Sweep.repeatRuns, outcomes, ← hfirst]
    dsimp only
    split
    · obtain ⟨hrest, n', hseen', hcount', hother'⟩ := ih (repetition + 1)
        ⟨count.summary.countRun (w.measure c k bound x).1, count.progress.attempt⟩ hseen
      rw [hcount] at hrest hcount'
      refine ⟨by rw [hrest], n', hseen', ?_, fun d hd => (hother' d hd).trans (hother d hd)⟩
      rw [hcount', List.length_cons, Nat.add_assoc, Nat.add_comm 1]
    · exact ⟨rfl, _, hseen, hcount, hother⟩

def worker (b : Behaviour) : Worker (Configuration → Nat) where
  validate := fun _ n => (.ok (), n)
  measure := fun c k bound n => (b.outcome c k bound (n c + 1), counted c n)

def probe (b : Behaviour) : Probe (Configuration → Nat) := fun q n => (b.answer q, n)

theorem shown (b : Behaviour) (queues : List String) : b.Shown queues b.worker b.probe Eq where
  validate := fun _ _ _ => rfl
  outcome := fun hs _ _ _ => by rw [hs]; rfl
  answer := fun _ _ => rfl
  seen_validate := fun hs _ => hs
  seen_measured := fun hs _ _ _ => by rw [hs]; rfl
  seen_probe := fun hs _ => hs

end Behaviour

end CalibratedSweep
