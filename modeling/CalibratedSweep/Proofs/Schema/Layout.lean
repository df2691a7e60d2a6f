import CalibratedSweep.Proofs.Plan.Distinct
/-!
Which layout a sweep gets. The scan of neighbouring delays finds out whether all of them are the same,
so the layout is a matter of the set of delays; rows that belong to different configurations of the
plan have different keys in it.
-/

namespace CalibratedSweep.Schema

variable {delays : List UInt64} {minDelay : UInt64}

theorem neighboursDiffer_eq_false_iff :
    neighboursDiffer delays = false ↔ ∀ a ∈ delays, ∀ b ∈ delays, a = b := by
  constructor
  · exact eq_of_not_neighboursDiffer
  · intro h
    induction delays with
    | nil => rfl
    | cons d rest ih =>
      cases rest with
      | nil => rfl
      | cons e rest =>
        have hde : d = e := h d List.mem_cons_self e (List.mem_cons_of_mem d List.mem_cons_self)
        have hrest := ih fun a ha b hb =>
          h a (List.mem_cons_of_mem d ha) b (List.mem_cons_of_mem d hb)
        rw [neighboursDiffer, hrest, hde, bne_self_eq_false, Bool.or_false]

theorem forDelays_eq_withoutDelay_iff : forDelays delays minDelay = .withoutDelay ↔
    (∀ a ∈ delays, ∀ b ∈ delays, a = b) ∧ ∀ d ∈ delays, d < minDelay := by
  rw [← neighboursDiffer_eq_false_iff]
  unfold forDelays
  split <;> simp_all [imp_iff_not_or]

theorem forDelays_congr {delays' : List UInt64} (h : ∀ d, d ∈ delays ↔ d ∈ delays') :
    forDelays delays minDelay = forDelays delays' minDelay := by
  have hiff : forDelays delays minDelay = .withoutDelay ↔
      forDelays delays' minDelay = .withoutDelay := by
    rw [forDelays_eq_withoutDelay_iff, forDelays_eq_withoutDelay_iff]
    simp only [h]
  cases hs : forDelays delays minDelay with
  | withoutDelay => exact (hiff.mp hs).symm
  | withDelay =>
    cases hs' : forDelays delays' minDelay with
    | withoutDelay => exact hs.symm.trans (hiff.mpr hs')
    | withDelay => rfl

/--
The column for the delay is left out exactly if all delays are the same and below the threshold. With
it or without it, different configurations of the plan have different keys, and neither the order of
the delays nor a repetition among them makes a difference.
-/
theorem layout_keeps_apart (m : Matrix) (minDelay : UInt64) :
    (∀ runs, ∀ c ∈ m.plan.configurations, ∀ d ∈ m.plan.configurations, c ≠ d →
      (forDelays m.delays minDelay).keyOf (.ofConfiguration c runs) ≠
        (forDelays m.delays minDelay).keyOf (.ofConfiguration d runs)) ∧
    (forDelays m.delays minDelay = .withoutDelay ↔
      (∀ a ∈ m.delays, ∀ b ∈ m.delays, a = b) ∧ ∀ d ∈ m.delays, d < minDelay) ∧
    ∀ delays, (∀ d, d ∈ delays ↔ d ∈ m.delays) →
      forDelays delays minDelay = forDelays m.delays minDelay := by
  refine ⟨fun runs c hc d hd hne hkey => ?_, forDelays_eq_withoutDelay_iff, fun delays h => ?_⟩
  · exact hne (keyOf_injective_on_plan hc hd hkey)
  · exact forDelays_congr h

theorem layout_keeps_apart_below_threshold :
    let m : Matrix := ⟨["A"], [⟨1, 1⟩], [64], [50, 0, 50], 1000, 3⟩
    let c (delay : UInt64) : Configuration := ⟨"A", ⟨1, 1⟩, 64, 1000, delay⟩
    let s := forDelays m.delays 100
    (c 0 ∈ m.plan.configurations ∧ c 50 ∈ m.plan.configurations ∧ c 0 ≠ c 50) ∧
      s.keyOf (.ofConfiguration (c 0) 3) ≠ s.keyOf (.ofConfiguration (c 50) 3) ∧
      (∀ d : UInt64, d ∈ [0, 50] ↔ d ∈ m.delays) ∧ forDelays [0, 50] 100 = s := by
  intro m c s
  have hzero : c 0 ∈ m.plan.configurations := by decide
  have hfifty : c 50 ∈ m.plan.configurations := by decide
  have hne : c 0 ≠ c 50 := by decide
  have hset : ∀ d : UInt64, d ∈ [0, 50] ↔ d ∈ m.delays := by
    intro d
    simp only [m, List.mem_cons, List.not_mem_nil, or_false]
    tauto
  obtain ⟨hkeys, -, hsame⟩ := layout_keeps_apart m 100
  exact ⟨⟨hzero, hfifty, hne⟩, hkeys 3 _ hzero _ hfifty hne, hset, hsame _ hset⟩

end CalibratedSweep.Schema
