import CalibratedSweep.Plan.Basic
import CalibratedSweep.Schema
import Mathlib.Data.List.Nodup

namespace CalibratedSweep

section Lists

variable {α β : Type}

theorem nodup_flatMap_iff {f : α → List β} {g : β → α} {xs : List α}
    (hg : ∀ x ∈ xs, ∀ y ∈ f x, g y = x) (hne : ∀ x ∈ xs, f x ≠ []) :
    (xs.flatMap f).Nodup ↔ xs.Nodup ∧ ∀ x ∈ xs, (f x).Nodup := by
  induction xs with
  | nil => simp
  | cons x xs ih =>
    have hrest := ih (fun y hy => hg y (List.mem_cons_of_mem _ hy))
      (fun y hy => hne y (List.mem_cons_of_mem _ hy))
    have hdisjoint : (∀ a ∈ f x, ∀ b ∈ xs.flatMap f, a ≠ b) ↔ x ∉ xs := by
      constructor
      · intro h hx
        obtain ⟨a, ha⟩ := List.exists_mem_of_ne_nil _ (hne x List.mem_cons_self)
        exact h a ha a (List.mem_flatMap.mpr ⟨x, hx, ha⟩) rfl
      · rintro h a ha b hb rfl
        obtain ⟨y, hy, hay⟩ := List.mem_flatMap.mp hb
        have hxy : x = y :=
          (hg x List.mem_cons_self a ha).symm.trans (hg y (List.mem_cons_of_mem _ hy) a hay)
        exact h (hxy ▸ hy)
    rw [List.flatMap_cons, List.nodup_append, hrest, hdisjoint, List.nodup_cons]
    constructor
    · rintro ⟨hx, ⟨hxs, hall⟩, hnot⟩
      refine ⟨⟨hnot, hxs⟩, fun y hy => ?_⟩
      obtain rfl | hy := List.mem_cons.mp hy
      · exact hx
      · exact hall y hy
    · rintro ⟨⟨hnot, hxs⟩, hall⟩
      exact ⟨hall x List.mem_cons_self,
        ⟨hxs, fun y hy => hall y (List.mem_cons_of_mem _ hy)⟩, hnot⟩

variable [DecidableEq α]

theorem mem_firstsAfter {seen xs : List α} {x : α} :
    x ∈ firstsAfter seen xs ↔ x ∈ xs ∧ x ∉ seen := by
  induction xs generalizing seen with
  | nil => simp [firstsAfter]
  | cons y xs ih =>
    rw [firstsAfter]
    split
    · rename_i hy
      rw [ih, List.mem_cons]
      constructor
      · rintro ⟨hx, hs⟩
        exact ⟨.inr hx, hs⟩
      · rintro ⟨rfl | hx, hs⟩
        · exact absurd hy hs
        · exact ⟨hx, hs⟩
    · rename_i hy
      rw [List.mem_cons, ih, List.mem_cons, List.mem_cons, not_or]
      constructor
      · rintro (rfl | ⟨hx, -, hs⟩)
        · exact ⟨.inl rfl, hy⟩
        · exact ⟨.inr hx, hs⟩
      · rintro ⟨rfl | hx, hs⟩
        · exact .inl rfl
        · by_cases hxy : x = y
          · exact .inl hxy
          · exact .inr ⟨hx, hxy, hs⟩

theorem mem_firsts {xs : List α} {x : α} : x ∈ firsts xs ↔ x ∈ xs := by
  rw [firsts, mem_firstsAfter]
  simp

theorem nodup_firstsAfter (seen xs : List α) : (firstsAfter seen xs).Nodup := by
  induction xs generalizing seen with
  | nil => exact List.nodup_nil
  | cons y xs ih =>
    rw [firstsAfter]
    split
    · exact ih seen
    · rw [List.nodup_cons, mem_firstsAfter]
      exact ⟨fun h => h.2 List.mem_cons_self, ih _⟩

theorem nodup_firsts (xs : List α) : (firsts xs).Nodup := nodup_firstsAfter [] xs

end Lists

namespace Matrix

theorem mem_plan {m : Matrix} {c : Configuration} : c ∈ m.plan.configurations ↔
    c.queue ∈ m.queues ∧ c.threads ∈ m.threadPairs ∧ c.capacity ∈ m.sizes ∧ c.delay ∈ m.delays ∧
      c.ops = m.ops := by
  simp only [plan, List.mem_flatMap, List.mem_map]
  constructor
  · rintro ⟨q, hq, t, ht, n, hn, d, hd, rfl⟩
    exact ⟨hq, ht, hn, hd, rfl⟩
  · rintro ⟨hq, ht, hn, hd, hops⟩
    exact ⟨_, hq, _, ht, _, hn, _, hd, by rw [← hops]⟩

theorem nodup_plan_iff {m : Matrix} (hq : m.queues ≠ []) (ht : m.threadPairs ≠ [])
    (hs : m.sizes ≠ []) (hd : m.delays ≠ []) : m.plan.configurations.Nodup ↔
      m.queues.Nodup ∧ m.threadPairs.Nodup ∧ m.sizes.Nodup ∧ m.delays.Nodup := by
  have hconst {α : Type} {xs : List α} (hne : xs ≠ []) (P : Prop) : (∀ x ∈ xs, P) ↔ P := by
    obtain ⟨x, hx⟩ := List.exists_mem_of_ne_nil xs hne
    exact ⟨fun h => h x hx, fun h _ _ => h⟩
  obtain ⟨t₀, ht₀⟩ := List.exists_mem_of_ne_nil _ ht
  obtain ⟨n₀, hn₀⟩ := List.exists_mem_of_ne_nil _ hs
  obtain ⟨d₀, hd₀⟩ := List.exists_mem_of_ne_nil _ hd
  have hdelays (q : String) (t : ThreadPair) (n : UInt64) :
      (m.delays.map fun d => (⟨q, t, n, m.ops, d⟩ : Configuration)).Nodup ↔ m.delays.Nodup :=
    List.nodup_map_iff fun a b h => (Configuration.mk.inj h).2.2.2.2
  have hsizes (q : String) (t : ThreadPair) : (m.sizes.flatMap fun n =>
      m.delays.map fun d => (⟨q, t, n, m.ops, d⟩ : Configuration)).Nodup ↔
        m.sizes.Nodup ∧ m.delays.Nodup := by
    rw [nodup_flatMap_iff (g := Configuration.capacity)]
    · simp only [hdelays, hconst hs]
    · intro n _ c hc
      obtain ⟨d, -, rfl⟩ := List.mem_map.mp hc
      rfl
    · intro n _
      exact List.ne_nil_of_mem (List.mem_map.mpr ⟨d₀, hd₀, rfl⟩)
  have hpairs (q : String) : (m.threadPairs.flatMap fun t => m.sizes.flatMap fun n =>
      m.delays.map fun d => (⟨q, t, n, m.ops, d⟩ : Configuration)).Nodup ↔
        m.threadPairs.Nodup ∧ m.sizes.Nodup ∧ m.delays.Nodup := by
    rw [nodup_flatMap_iff (g := Configuration.threads)]
    · simp only [hsizes, hconst ht]
    · intro t _ c hc
      simp only [List.mem_flatMap, List.mem_map] at hc
      obtain ⟨n, -, d, -, rfl⟩ := hc
      rfl
    · intro t _
      exact List.ne_nil_of_mem
        (List.mem_flatMap.mpr ⟨n₀, hn₀, List.mem_map.mpr ⟨d₀, hd₀, rfl⟩⟩)
  rw [plan, nodup_flatMap_iff (g := Configuration.queue)]
  · simp only [hpairs, hconst hq]
  · intro q _ c hc
    simp only [List.mem_flatMap, List.mem_map] at hc
    obtain ⟨t, -, n, -, d, -, rfl⟩ := hc
    rfl
  · intro q _
    exact List.ne_nil_of_mem (List.mem_flatMap.mpr
      ⟨t₀, ht₀, List.mem_flatMap.mpr ⟨n₀, hn₀, List.mem_map.mpr ⟨d₀, hd₀, rfl⟩⟩⟩)

theorem plan_eq_nil {m : Matrix}
    (h : m.queues = [] ∨ m.threadPairs = [] ∨ m.sizes = [] ∨ m.delays = []) :
    m.plan.configurations = [] := by
  obtain h | h | h | h := h <;> simp [plan, h]

theorem nodup_plan {m : Matrix} (hq : m.queues.Nodup) (ht : m.threadPairs.Nodup)
    (hs : m.sizes.Nodup) (hd : m.delays.Nodup) : m.plan.configurations.Nodup := by
  by_cases hempty : m.queues = [] ∨ m.threadPairs = [] ∨ m.sizes = [] ∨ m.delays = []
  · rw [plan_eq_nil hempty]
    exact List.nodup_nil
  · simp only [not_or] at hempty
    obtain ⟨hq', ht', hs', hd'⟩ := hempty
    exact (nodup_plan_iff hq' ht' hs' hd').mpr ⟨hq, ht, hs, hd⟩

end Matrix

namespace Schema

theorem eq_of_not_neighboursDiffer {ds : List UInt64} (h : neighboursDiffer ds = false) :
    ∀ a ∈ ds, ∀ b ∈ ds, a = b := by
  have hhead : ∀ d rest, neighboursDiffer (d :: rest) = false → ∀ b ∈ rest, b = d := by
    intro d rest
    induction rest generalizing d with
    | nil => simp
    | cons e rest ih =>
      intro h b hb
      rw [neighboursDiffer, Bool.or_eq_false_iff, bne_eq_false_iff_eq] at h
      obtain ⟨rfl, h⟩ := h
      obtain rfl | hb := List.mem_cons.mp hb
      · rfl
      · exact ih d h b hb
  cases ds with
  | nil => simp
  | cons d rest =>
    have heq : ∀ a ∈ d :: rest, a = d := by
      intro a ha
      obtain rfl | ha := List.mem_cons.mp ha
      · rfl
      · exact hhead d rest h a ha
    intro a ha b hb
    rw [heq a ha, heq b hb]

theorem keyOf_injective_on_plan {m : Matrix} {minDelay : UInt64} {runs : UInt32}
    {c d : Configuration} (hc : c ∈ m.plan.configurations) (hd : d ∈ m.plan.configurations)
    (h : (forDelays m.delays minDelay).keyOf (.ofConfiguration c runs) =
      (forDelays m.delays minDelay).keyOf (.ofConfiguration d runs)) : c = d := by
  obtain ⟨-, -, -, hcd, -⟩ := Matrix.mem_plan.mp hc
  obtain ⟨-, -, -, hdd, -⟩ := Matrix.mem_plan.mp hd
  obtain ⟨q, ⟨p, r⟩, n, ops, delay⟩ := c
  obtain ⟨q', ⟨p', r'⟩, n', ops', delay'⟩ := d
  cases hs : forDelays m.delays minDelay with
  | withDelay =>
    rw [hs] at h
    simp only [keyOf, hasDelay, if_true, RowKey.ofConfiguration, RowKey.mk.injEq,
      Option.some.injEq] at h
    obtain ⟨rfl, rfl, rfl, rfl, rfl, -, rfl⟩ := h
    rfl
  | withoutDelay =>
    have hsame : delay = delay' := by
      unfold forDelays at hs
      split at hs
      · cases hs
      · rename_i hcond
        rw [Bool.not_eq_true, Bool.or_eq_false_iff] at hcond
        exact eq_of_not_neighboursDiffer hcond.1 _ hcd _ hdd
    rw [hs] at h
    simp only [keyOf, hasDelay, Bool.false_eq_true, if_false, RowKey.withoutDelay,
      RowKey.ofConfiguration, RowKey.mk.injEq] at h
    obtain ⟨rfl, rfl, rfl, rfl, rfl, -, -⟩ := h
    rw [hsame]

end Schema

end CalibratedSweep
