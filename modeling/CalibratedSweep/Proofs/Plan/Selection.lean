import CalibratedSweep.Proofs.Plan.Distinct
import Mathlib.Data.List.Sort
/-!
Thread pairs and queues are chosen by first occurrence. A choice is determined by what it keeps: each kept
item once, in the order of the first places. It is stable, and what is appended later stays behind it.
-/

namespace CalibratedSweep

section Lists

variable {α : Type} [DecidableEq α] {keep : α → Bool} {xs ys : List α}

/-- What of `xs` is kept, each item once and where it occurs first. -/
structure Choice (keep : α → Bool) (xs ys : List α) : Prop where
  nodup : ys.Nodup
  mem_iff : ∀ x, x ∈ ys ↔ x ∈ xs ∧ keep x = true
  ordered : ys.Pairwise fun x y => xs.idxOf x < xs.idxOf y

theorem firstsAfter_ordered (seen xs : List α) :
    (firstsAfter seen xs).Pairwise fun x y => xs.idxOf x < xs.idxOf y := by
  induction xs generalizing seen with
  | nil => exact List.Pairwise.nil
  | cons z xs ih =>
    have hlater (seen' : List α) (hz : z ∈ seen') :
        (firstsAfter seen' xs).Pairwise fun x y => (z :: xs).idxOf x < (z :: xs).idxOf y := by
      apply (ih seen').imp_of_mem
      intro x y hx hy hxy
      have hne {v : α} (hv : v ∈ firstsAfter seen' xs) : z ≠ v := by
        rintro rfl
        exact (mem_firstsAfter.mp hv).2 hz
      rw [List.idxOf_cons_ne xs (hne hx), List.idxOf_cons_ne xs (hne hy)]
      omega
    rw [firstsAfter]
    by_cases hz : z ∈ seen
    · rw [if_pos hz]
      exact hlater seen hz
    · rw [if_neg hz, List.pairwise_cons]
      refine ⟨?_, hlater (z :: seen) List.mem_cons_self⟩
      intro y hy
      have hne : z ≠ y := by
        rintro rfl
        exact (mem_firstsAfter.mp hy).2 List.mem_cons_self
      rw [List.idxOf_cons_self, List.idxOf_cons_ne xs hne]
      omega

theorem firstsAfter_filter {seen seen' : List α}
    (h : ∀ x, keep x = true → (x ∈ seen ↔ x ∈ seen')) :
    firstsAfter seen (xs.filter keep) = (firstsAfter seen' xs).filter keep := by
  induction xs generalizing seen seen' with
  | nil => rfl
  | cons z xs ih =>
    rw [firstsAfter]
    by_cases hkeep : keep z = true
    · have hcons : ∀ x, keep x = true → (x ∈ z :: seen ↔ x ∈ z :: seen') := by
        intro x hx
        simp [h x hx]
      rw [List.filter_cons_of_pos hkeep, firstsAfter]
      by_cases hz : z ∈ seen
      · rw [if_pos hz, if_pos ((h z hkeep).mp hz)]
        exact ih h
      · rw [if_neg hz, if_neg (mt (h z hkeep).mpr hz), List.filter_cons_of_pos hkeep, ih hcons]
    · rw [List.filter_cons_of_neg hkeep]
      by_cases hz : z ∈ seen'
      · rw [if_pos hz]
        exact ih h
      · rw [if_neg hz, List.filter_cons_of_neg hkeep]
        apply ih
        intro x hx
        have hne : x ≠ z := by
          rintro rfl
          exact hkeep hx
        simp [h x hx, hne]

theorem firstsAfter_eq_self {seen : List α} (hxs : xs.Nodup) (h : ∀ x ∈ xs, x ∉ seen) :
    firstsAfter seen xs = xs := by
  induction xs generalizing seen with
  | nil => rfl
  | cons z xs ih =>
    rw [List.nodup_cons] at hxs
    rw [firstsAfter, if_neg (h z List.mem_cons_self), ih hxs.2]
    intro x hx
    rw [List.mem_cons, not_or]
    refine ⟨?_, h x (List.mem_cons_of_mem z hx)⟩
    rintro rfl
    exact hxs.1 hx

theorem firsts_eq_self (h : xs.Nodup) : firsts xs = xs :=
  firstsAfter_eq_self h fun _ _ => List.not_mem_nil

theorem prefix_firstsAfter (seen xs ys : List α) :
    firstsAfter seen xs <+: firstsAfter seen (xs ++ ys) := by
  induction xs generalizing seen with
  | nil => exact List.nil_prefix
  | cons z xs ih =>
    rw [List.cons_append, firstsAfter, firstsAfter]
    by_cases hz : z ∈ seen
    · rw [if_pos hz, if_pos hz]
      exact ih seen
    · rw [if_neg hz, if_neg hz, List.prefix_cons_inj]
      exact ih (z :: seen)

theorem choice_firsts (keep : α → Bool) (xs : List α) : Choice keep xs (firsts (xs.filter keep)) := by
  refine ⟨nodup_firsts _, ?_, ?_⟩
  · intro x
    rw [mem_firsts, List.mem_filter]
  · rw [firsts, firstsAfter_filter fun _ _ => Iff.rfl]
    exact (firstsAfter_ordered [] xs).sublist List.filter_sublist

theorem Choice.unique {zs : List α} (hy : Choice keep xs ys) (hz : Choice keep xs zs) : ys = zs := by
  have hperm : ys.Perm zs := by
    rw [List.perm_ext_iff_of_nodup hy.nodup hz.nodup]
    intro x
    rw [hy.mem_iff, hz.mem_iff]
  apply hperm.eq_of_pairwise _ hy.ordered hz.ordered
  intro x y _ _ hxy hyx
  omega

theorem choice_iff : Choice keep xs ys ↔ ys = firsts (xs.filter keep) := by
  constructor
  · intro h
    exact h.unique (choice_firsts keep xs)
  · rintro rfl
    exact choice_firsts keep xs

end Lists

namespace ThreadShape

/-- What a shape makes of one count. `oneToOne` is not made of counts. -/
def Of (t : UInt32) (p : ThreadPair) : ThreadShape → Prop
  | .balanced => p.producers = t ∧ p.consumers = t
  | .manyToOne => p.producers = t ∧ p.consumers = 1
  | .oneToMany => p.producers = 1 ∧ p.consumers = t
  | .oneToOne => False

theorem forall₂_pairs (s : ThreadShape) (hs : s ≠ .oneToOne) (counts : List UInt32) :
    List.Forall₂ s.Of counts (s.pairs counts) := by
  cases s with
  | oneToOne => exact absurd rfl hs
  | _ =>
    rw [pairs, List.forall₂_map_right_iff, List.forall₂_same]
    exact fun t _ => ⟨rfl, rfl⟩

end ThreadShape

theorem choice_threadPairs_iff {explicit ps : List ThreadPair} {shapes : List ThreadShape}
    {counts : List UInt32} :
    Choice (fun _ => true) (explicit ++ shapes.flatMap (ThreadShape.pairs counts)) ps ↔
      ps = threadPairs explicit shapes counts := by
  rw [choice_iff, List.filter_true, threadPairs]

/--
Pairs and queues are chosen by first occurrence, and in no other way. Chosen again they stay as they
are, and further shapes or queues only add to the end. A shape has one pair for each count, in the
order of the counts.
-/
theorem choices_in_first_order (explicit : List ThreadPair) (shapes more : List ThreadShape)
    (counts : List UInt32) (keep : String → Bool) (queues others : List String) :
    ((∀ ps, Choice (fun _ => true) (explicit ++ shapes.flatMap (ThreadShape.pairs counts)) ps ↔
          ps = threadPairs explicit shapes counts) ∧
        (∀ p, p ∈ threadPairs explicit shapes counts ↔
          p ∈ explicit ∨ ∃ s ∈ shapes, p ∈ s.pairs counts) ∧
        (∀ s : ThreadShape, s ≠ .oneToOne → List.Forall₂ s.Of counts (s.pairs counts)) ∧
        ThreadShape.oneToOne.pairs counts = [⟨1, 1⟩] ∧
        (∀ counts', threadPairs (threadPairs explicit shapes counts) [] counts' =
          threadPairs explicit shapes counts) ∧
        threadPairs explicit shapes counts <+: threadPairs explicit (shapes ++ more) counts) ∧
      (∀ qs, Choice keep queues qs ↔ qs = selectQueues keep queues) ∧
      selectQueues keep (selectQueues keep queues) = selectQueues keep queues ∧
      selectQueues keep queues <+: selectQueues keep (queues ++ others) := by
  refine ⟨⟨fun ps => choice_threadPairs_iff, ?_, fun s hs => s.forall₂_pairs hs counts, rfl, ?_, ?_⟩,
    fun qs => choice_iff, ?_, ?_⟩
  · intro p
    rw [threadPairs, mem_firsts, List.mem_append, List.mem_flatMap]
  · intro counts'
    have hnodup : (threadPairs explicit shapes counts).Nodup := nodup_firsts _
    rw [threadPairs, List.flatMap_nil, List.append_nil, firsts_eq_self hnodup]
  · rw [threadPairs, threadPairs, List.flatMap_append, ← List.append_assoc]
    exact prefix_firstsAfter _ _ _
  · have hchoice : Choice keep queues (selectQueues keep queues) := choice_firsts keep queues
    have hkept : (selectQueues keep queues).filter keep = selectQueues keep queues := by
      rw [List.filter_eq_self]
      intro q hq
      exact ((hchoice.mem_iff q).mp hq).2
    rw [selectQueues, hkept, firsts_eq_self hchoice.nodup]
  · rw [selectQueues, selectQueues, List.filter_append]
    exact prefix_firstsAfter _ _ _

end CalibratedSweep
