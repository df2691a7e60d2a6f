import CalibratedSweep.Proofs.Sweep.Behaviour
import CalibratedSweep.Proofs.Sweep.Memory
/-!
Rows of a sweep with a known behaviour. It adds the rows of the configurations whose keys were not
in the file; on top of the rows of the first configurations, these give again the rows of the first
ones.
-/

namespace CalibratedSweep.Sweep

open Workspace (sinkFile)

variable {σ : Type} {behaviour : Behaviour} {queues : List String} {h : Host σ}
  {seen : σ → (Configuration → Nat) → Prop} {settings : Calibration.Settings}
  {policy : TimeBound.Policy} {set : Setting} {c : Configuration}

def newRow? (set : Setting) (row? : Configuration → Option Row) (c : Configuration) : Option Row :=
  if set.schema.keyOf (.ofConfiguration c set.runs) ∈ set.completed then none else row? c

section Resolution

variable {x : Walk σ} {r : Calibrator.Resolution σ} {n : Configuration → Nat}

theorem resolved_shown (hs : behaviour.Shown queues h.worker h.probe seen) (hx : seen x.world n)
    (hm : x.memory.Sound settings policy) (hg : x.memory.calibrator.Agrees behaviour.answer)
    (hr : x.memory.calibrator.resolve h.probe c.delay x.world = r) :
    r.result = settings.answered behaviour.answer c.delay ∧
      r.calibrator.Agrees behaviour.answer ∧ seen r.world n := by
  subst hr
  obtain ⟨hresult, hagrees⟩ := hg.resolve (hs.answer hx) c.delay
  rw [hm.settings] at hresult
  exact ⟨hresult, hagrees, hs.resolve _ _ hx⟩

theorem runs_shown (hs : behaviour.Shown queues h.worker h.probe seen) (hr : seen r.world n)
    (hn : n c = 0) (hresult : r.result = settings.answered behaviour.answer c.delay)
    (hb : x.memory.bounds.Sound policy) {k : Calibration} (hk : r.result = .ok k)
    {runs : UInt32} {count count' : Count} {events : List Event} {outcomes : List Outcome} {world : σ}
    (hruns : repeatRuns h.worker c k (x.memory.bounds.bound c.ops c.delay).1 1 runs.toNat count
      r.world = (events, outcomes, count', world)) :
    behaviour.row? settings policy runs c = (reduce c outcomes runs).toOption ∧
      ∃ n', seen world n' ∧ ∀ d, d ≠ c → n' d = n d := by
  have hall := hs.repeatRuns (c := c) k (policy.bound c.ops c.delay) 1 runs.toNat count hr
  rw [(hb.bound c.ops c.delay).1] at hruns
  rw [hruns, hn] at hall
  obtain ⟨houtcomes, n', hseen, -, hother⟩ := hall
  refine ⟨?_, n', hseen, hother⟩
  rw [Behaviour.row?, ← hresult, hk]
  dsimp only at houtcomes ⊢
  rw [← houtcomes]

end Resolution

variable {path : String} {w : Worker σ} {p : Probe σ} {x y : Walk (Workspace × σ)}

theorem Visit.shown {events : List Event} {n : Configuration → Nat}
    (hv : Visit (.apart w p (sinkFile path)) set c x events y)
    (hs : behaviour.Shown queues w p seen) (hx : seen x.world.2 n) (hn : n c = 0)
    (hm : x.memory.Sound settings policy) (hg : x.memory.calibrator.Agrees behaviour.answer) :
    events.filterMap Event.row? =
        (newRow? set (behaviour.row? settings policy set.runs) c).toList ∧
      y.memory.calibrator.Agrees behaviour.answer ∧
      ∃ n', seen y.world.2 n' ∧ ∀ d, d ≠ c → n' d = n d := by
  have hlift := hs.apart (sinkFile path)
  cases hv with
  | done hk hw hm =>
    rw [newRow?, if_pos hk, hw, hm]
    exact ⟨rfl, hg, n, hx, fun _ _ => rfl⟩
  | @uncalibrated hk r hr e he t hw hmem =>
    obtain ⟨hresult, hagrees, hseen⟩ := resolved_shown hlift hx hm hg hr
    rw [newRow?, if_neg hk, Behaviour.row?, ← hresult, he, hw, hmem, List.filterMap_append,
      (call?_calibrationEvents c.delay r.probed (.error e)).2]
    exact ⟨rfl, hagrees, n, hseen, fun _ _ => rfl⟩
  | @incomplete hk r hr k hc count count' outcomes world hruns missing hrow p t hw hmem =>
    obtain ⟨hresult, hagrees, hseen⟩ := resolved_shown hlift hx hm hg hr
    obtain ⟨hrow', hend⟩ := runs_shown hlift hseen hn hresult hm.bounds hc hruns
    rw [newRow?, if_neg hk, hrow', hrow, hw, hmem,
      (call?_block c r.probed r.result k _ outcomes _).2]
    exact ⟨rfl, hagrees, hend⟩
  | @complete hk r hr k hc count count' outcomes world hruns row hrow p t hwrite hmem =>
    obtain ⟨hresult, hagrees, hseen⟩ := resolved_shown hlift hx hm hg hr
    obtain ⟨hrow', hend⟩ := runs_shown hlift hseen hn hresult hm.bounds hc hruns
    rw [newRow?, if_neg hk, hrow', hrow, (writeRow_apart hwrite).2, hmem,
      (call?_block c r.probed r.result k _ outcomes _).2]
    exact ⟨rfl, hagrees, hend⟩

theorem Visits.shown {cs : List Configuration} {blocks : List (List Event)}
    {n : Configuration → Nat} (hv : Visits (.apart w p (sinkFile path)) set cs x blocks y)
    (hs : behaviour.Shown queues w p seen) (hcs : cs.Nodup) (hx : seen x.world.2 n)
    (hn : ∀ c ∈ cs, n c = 0) (hm : x.memory.Sound settings policy)
    (hg : x.memory.calibrator.Agrees behaviour.answer) :
    List.Forall₂ (fun c block => block.filterMap Event.row? =
        (newRow? set (behaviour.row? settings policy set.runs) c).toList ∧
      ∃ known, Block set policy known c block) cs blocks := by
  induction hv generalizing n with
  | nil x => exact .nil
  | @cons c rest x y z block blocks hv _ ih =>
    obtain ⟨hnot, hrest⟩ := List.nodup_cons.mp hcs
    obtain ⟨hrow, hg', n', hy, hother⟩ := hv.shown hs hx (hn c List.mem_cons_self) hm hg
    have hblock := hv.block hm.bounds (.refl _)
    have hm' : y.memory.Sound settings policy := hv.memory_sound hm
    -- The plan names nothing twice, so the runs of `c` leave the counts of the rest at zero.
    refine .cons ⟨hrow, _, hblock⟩ (ih hrest hy (fun d hd => ?_) hm' hg')
    have hdc : d ≠ c := fun he => hnot (he ▸ hd)
    rw [hother d hdc]
    exact hn d (List.mem_cons_of_mem _ hd)

section Lists

variable {α β γ : Type}

theorem filterMap_flatten_of_forall₂ {f : β → Option γ} {g : α → Option γ} {xs : List α}
    {blocks : List (List β)} (h : List.Forall₂ (fun x block => block.filterMap f = (g x).toList) xs
      blocks) : blocks.flatten.filterMap f = xs.filterMap g := by
  induction h with
  | nil => rfl
  | @cons x block xs blocks hx _ ih =>
    rw [List.flatten_cons, List.filterMap_append, hx, ih, List.filterMap_cons]
    cases g x <;> rfl

theorem prefix_filterMap {f : α → Option β} {xs : List α} {ys : List β}
    (h : ys <+: xs.filterMap f) : ∃ zs, zs <+: xs ∧ ys = zs.filterMap f := by
  induction xs generalizing ys with
  | nil => exact ⟨[], List.prefix_refl _, List.prefix_nil.mp h⟩
  | cons x xs ih =>
    rw [List.filterMap_cons] at h
    cases hx : f x with
    | none =>
      rw [hx] at h
      obtain ⟨zs, hzs, rfl⟩ := ih h
      exact ⟨x :: zs, by simpa using hzs, by rw [List.filterMap_cons, hx]⟩
    | some y =>
      rw [hx] at h
      obtain rfl | ⟨rest, rfl, hrest⟩ := List.prefix_cons_iff.mp h
      · exact ⟨[], List.nil_prefix, rfl⟩
      · obtain ⟨zs, hzs, rfl⟩ := ih hrest
        exact ⟨x :: zs, by simpa using hzs, by rw [List.filterMap_cons, hx]⟩

end Lists

section Resume

variable {row? : Configuration → Option Row} {plan pre done : List Configuration}

/-- Rows have the keys of their configurations, and these are told apart by them. -/
structure Keyed (set : Setting) (row? : Configuration → Option Row) (plan : List Configuration) :
    Prop where
  key : ∀ c r, row? c = some r → r.key = .ofConfiguration c set.runs
  injective : ∀ c ∈ plan, ∀ d ∈ plan, set.schema.keyOf (.ofConfiguration c set.runs) =
    set.schema.keyOf (.ofConfiguration d set.runs) → c = d

theorem newRow?_of_mem (hk : Keyed set row? plan)
    (hset : set.completed = (pre.filterMap row?).map fun r => set.schema.keyOf r.key)
    {c : Configuration} (hc : c ∈ pre) : newRow? set row? c = none := by
  unfold newRow?
  split
  · rfl
  · rename_i hnot
    cases hrow : row? c with
    | none => rfl
    | some r =>
      refine absurd ?_ hnot
      rw [hset, ← hk.key c r hrow]
      exact List.mem_map.mpr ⟨r, List.mem_filterMap.mpr ⟨c, hc, hrow⟩, rfl⟩

theorem newRow?_of_not_mem (hk : Keyed set row? plan) (hpre : pre <+: plan)
    (hset : set.completed = (pre.filterMap row?).map fun r => set.schema.keyOf r.key)
    {c : Configuration} (hc : c ∈ plan) (hn : c ∉ pre) : newRow? set row? c = row? c := by
  unfold newRow?
  rw [if_neg]
  rw [hset]
  intro hm
  obtain ⟨r, hr, hkey⟩ := List.mem_map.mp hm
  obtain ⟨d, hd, hrow⟩ := List.mem_filterMap.mp hr
  rw [hk.key d r hrow] at hkey
  exact hn (hk.injective d (hpre.mem hd) c hc hkey ▸ hd)

theorem resumed_rows (hk : Keyed set row? plan) (hp : plan.Nodup) (hpre : pre <+: plan)
    (hdone : done <+: plan)
    (hset : set.completed = (pre.filterMap row?).map fun r => set.schema.keyOf r.key) :
    ∃ longer, longer <+: plan ∧ done <+: longer ∧
      pre.filterMap row? ++ done.filterMap (newRow? set row?) = longer.filterMap row? := by
  -- Either all that was done was in the file before, or it goes on where the file ended.
  obtain hshort | ⟨mid, rfl⟩ := List.prefix_or_prefix_of_prefix hdone hpre
  · refine ⟨pre, hpre, hshort, ?_⟩
    have hnone : done.filterMap (newRow? set row?) = [] :=
      List.filterMap_eq_nil_iff.mpr fun c hc => newRow?_of_mem hk hset (hshort.mem hc)
    rw [hnone, List.append_nil]
  · refine ⟨pre ++ mid, hdone, List.prefix_refl _, ?_⟩
    have hnone : pre.filterMap (newRow? set row?) = [] :=
      List.filterMap_eq_nil_iff.mpr fun c hc => newRow?_of_mem hk hset hc
    have hdisjoint := (List.nodup_append.mp (hp.sublist hdone.sublist)).2.2
    have hnew : mid.filterMap (newRow? set row?) = mid.filterMap row? := by
      refine List.filterMap_congr fun c hc => ?_
      have hcp : c ∉ pre := fun hm => hdisjoint c hm c hc rfl
      exact newRow?_of_not_mem hk hpre hset (hdone.mem (List.mem_append_right _ hc)) hcp
    rw [List.filterMap_append, List.filterMap_append, hnone, hnew, List.nil_append]

end Resume

end CalibratedSweep.Sweep
