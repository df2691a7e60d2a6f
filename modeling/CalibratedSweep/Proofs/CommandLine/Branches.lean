import CalibratedSweep.CommandLine.PlanTree
import CalibratedSweep.Proofs.Plan.Enumeration
/-!
Gathering a plan by queues leaves its order alone: as long as no queue is listed twice, the branches are
the parts of the plan that belong to the queues, one behind the other.
-/

namespace CalibratedSweep.PlanTree

section Insertion

variable {bs : List Branch} {k : Nat}

theorem insert_new (queue : String) (e : PlanLine) (hb : ∀ b ∈ bs, b.position < k) :
    insert k queue e bs = bs ++ [⟨k, queue, [e]⟩] := by
  induction bs with
  | nil => rfl
  | cons b bs ih =>
    rw [List.forall_mem_cons] at hb
    rw [insert, if_neg (by omega), if_neg (by omega), ih hb.2]
    rfl

theorem insert_last (queue queue' : String) (e : PlanLine) (es : List PlanLine)
    (hb : ∀ b ∈ bs, b.position < k) :
    insert k queue e (bs ++ [⟨k, queue', es⟩]) = bs ++ [⟨k, queue', es ++ [e]⟩] := by
  induction bs with
  | nil => simp [insert]
  | cons b bs ih =>
    rw [List.forall_mem_cons] at hb
    rw [List.cons_append, insert, if_neg (by omega), if_neg (by omega), ih hb.2]
    rfl

end Insertion

section Queues

variable {queues : List String} {bs : List Branch} {queue : String} {cs : List Configuration}

def branch (k : Nat) (queue : String) (cs : List Configuration) : Branch := ⟨k, queue, cs.map entry⟩

theorem foldl_grow_last (hb : ∀ b ∈ bs, b.position < position queues queue)
    (hcs : ∀ c ∈ cs, c.queue = queue) (ds : List Configuration) :
    cs.foldl (grow queues) (bs ++ [branch (position queues queue) queue ds]) =
      bs ++ [branch (position queues queue) queue (ds ++ cs)] := by
  induction cs generalizing ds with
  | nil => rw [List.foldl_nil, List.append_nil]
  | cons c cs ih =>
    rw [List.forall_mem_cons] at hcs
    have hstep : grow queues (bs ++ [branch (position queues queue) queue ds]) c =
        bs ++ [branch (position queues queue) queue (ds ++ [c])] := by
      rw [grow, hcs.1, branch, insert_last _ _ _ _ hb, branch, List.map_append]
      rfl
    rw [List.foldl_cons, hstep, ih hcs.2, List.append_assoc]
    rfl

theorem foldl_grow_new (hb : ∀ b ∈ bs, b.position < position queues queue)
    (hcs : ∀ c ∈ cs, c.queue = queue) (hne : cs ≠ []) :
    cs.foldl (grow queues) bs = bs ++ [branch (position queues queue) queue cs] := by
  cases cs with
  | nil => exact absurd rfl hne
  | cons c cs =>
    rw [List.forall_mem_cons] at hcs
    have hstep : grow queues bs c = bs ++ [branch (position queues queue) queue [c]] := by
      rw [grow, hcs.1, insert_new _ _ hb]
      rfl
    rw [List.foldl_cons, hstep, foldl_grow_last hb hcs.2]
    rfl

theorem position_append {before after : List String} (h : queue ∉ before) :
    position (before ++ queue :: after) queue = before.length := by
  have hfirst : (before ++ queue :: after).idxOf? queue = some before.length := by
    rw [List.idxOf?_eq_some_iff]
    refine ⟨by simp, by simp, ?_⟩
    intro j hj he
    rw [List.getElem_append_left hj] at he
    exact h (he ▸ List.getElem_mem hj)
  rw [position, hfirst, Option.getD_some]

def headed (queue : String) (cs : List Configuration) : List PlanLine :=
  if cs = [] then [] else .heading queue :: cs.map entry

/--
The step is from one queue to the next: the queues before have lower positions, so whatever comes is
put behind their branches.
-/
theorem lines_foldl_grow {f : String → List Configuration} {before after : List String}
    (hn : (before ++ after).Nodup) (hf : ∀ q, ∀ c ∈ f q, c.queue = q)
    (hb : ∀ b ∈ bs, b.position < before.length) :
    ((after.flatMap f).foldl (grow (before ++ after)) bs).flatMap Branch.lines =
      bs.flatMap Branch.lines ++ after.flatMap fun q => headed q (f q) := by
  induction after generalizing before bs with
  | nil => simp
  | cons q after ih =>
    have hsplit : before ++ q :: after = before ++ [q] ++ after := by simp
    have hq : q ∉ before := by
      intro hmem
      exact (List.nodup_append.mp hn).2.2 q hmem q List.mem_cons_self rfl
    have hposition : position (before ++ q :: after) q = before.length := position_append hq
    have hb' : ∀ b ∈ bs, b.position < (before ++ [q]).length := by
      intro b hmem
      have hlow := hb b hmem
      rw [List.length_append]
      omega
    rw [hsplit] at hn hposition
    rw [hsplit, List.flatMap_cons, List.foldl_append, List.flatMap_cons]
    by_cases hempty : f q = []
    · rw [hempty, List.foldl_nil, ih hn hb', headed, if_pos rfl, List.nil_append]
    · have hbranch : (f q).foldl (grow (before ++ [q] ++ after)) bs =
          bs ++ [branch (position (before ++ [q] ++ after) q) q (f q)] :=
        foldl_grow_new (by rw [hposition]; exact hb) (hf q) hempty
      have hlow : ∀ b ∈ bs ++ [branch before.length q (f q)],
          b.position < (before ++ [q]).length := by
        intro b hmem
        rw [List.mem_append, List.mem_singleton] at hmem
        obtain hmem | rfl := hmem
        · exact hb' b hmem
        · simp [branch]
      rw [hbranch, hposition, ih hn hlow, List.flatMap_append, headed, if_neg hempty]
      simp [Branch.lines, branch]

end Queues

variable {m : Matrix}

theorem queue_of_mem_ofQueue (queue : String) : ∀ c ∈ m.ofQueue queue, c.queue = queue := by
  intro c hc
  simp only [Matrix.ofQueue, Matrix.ofThreads, Matrix.ofCapacity, List.mem_flatMap, List.mem_map] at hc
  obtain ⟨t, -, n, -, d, -, rfl⟩ := hc
  rfl

theorem ops_of_mem_ofQueue (queue : String) : ∀ c ∈ m.ofQueue queue, c.ops = m.ops := by
  intro c hc
  simp only [Matrix.ofQueue, Matrix.ofThreads, Matrix.ofCapacity, List.mem_flatMap, List.mem_map] at hc
  obtain ⟨t, -, n, -, d, -, rfl⟩ := hc
  rfl

theorem lines_plan (hn : m.queues.Nodup) :
    lines m.queues m.plan = m.queues.flatMap fun q => headed q (m.ofQueue q) := by
  have hstart : ∀ b ∈ ([] : List Branch), b.position < ([] : List String).length := by simp
  have hnone : ([] ++ m.queues).Nodup := hn
  exact lines_foldl_grow hnone queue_of_mem_ofQueue hstart

section Reading

variable {ops : UInt64} {queue : String} {cs : List Configuration}

theorem configurationsUnder_entries (hcs : ∀ c ∈ cs, c.queue = queue ∧ c.ops = ops)
    (rest : List PlanLine) : configurationsUnder ops queue (cs.map entry ++ rest) =
      cs ++ configurationsUnder ops queue rest := by
  induction cs with
  | nil => rfl
  | cons c cs ih =>
    rw [List.forall_mem_cons] at hcs
    obtain ⟨⟨rfl, rfl⟩, hcs⟩ := hcs
    rw [List.map_cons, List.cons_append, entry, configurationsUnder, ih hcs]
    rfl

theorem configurationsUnder_headed {f : String → List Configuration}
    (hf : ∀ q, ∀ c ∈ f q, c.queue = q ∧ c.ops = ops) (queues : List String) (queue : String) :
    configurationsUnder ops queue (queues.flatMap fun q => headed q (f q)) = queues.flatMap f := by
  induction queues generalizing queue with
  | nil => rfl
  | cons q queues ih =>
    rw [List.flatMap_cons, List.flatMap_cons, headed]
    by_cases hempty : f q = []
    · rw [if_pos hempty, hempty]
      exact ih queue
    · rw [if_neg hempty, List.cons_append, configurationsUnder, configurationsUnder_entries (hf q),
        ih q]

end Reading

theorem configurations_lines (hn : m.queues.Nodup) :
    configurations m.ops (lines m.queues m.plan) = m.plan.configurations := by
  rw [lines_plan hn, configurations, Matrix.plan_eq]
  apply configurationsUnder_headed
  intro q c hc
  exact ⟨queue_of_mem_ofQueue q c hc, ops_of_mem_ofQueue q c hc⟩

theorem queue_of_heading_mem (hn : m.queues.Nodup) {queue : String}
    (h : .heading queue ∈ lines m.queues m.plan) : queue ∈ m.queues := by
  rw [lines_plan hn, List.mem_flatMap] at h
  obtain ⟨q, hq, h⟩ := h
  by_cases hempty : m.ofQueue q = []
  · simp [headed, hempty] at h
  · simp [headed, hempty, entry] at h
    exact h ▸ hq

end CalibratedSweep.PlanTree
