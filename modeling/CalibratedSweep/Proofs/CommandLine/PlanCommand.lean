import CalibratedSweep.CommandLine.Run
import CalibratedSweep.Proofs.CommandLine.PlanText
import CalibratedSweep.Proofs.Sweep.Identity
import CalibratedSweep.Proofs.Sweep.Progress
/-!
What the tree of a sweep file shows is what a sweep does: the configurations of the plan, in the order in
which they are visited.
-/

namespace CalibratedSweep

namespace Sweep

section Order

variable {σ : Type} {h : Host σ} {set : Setting} {m : Matrix} {resume : Bool} {memory : Memory}
  {world : σ}

theorem Visits.snoc {cs : List Configuration} {c : Configuration} {a b d : Walk σ}
    {blocks : List (List Event)} {block : List Event} (hs : Visits h set cs a blocks b)
    (hv : Visit h set c b block d) : Visits h set (cs ++ [c]) a (blocks ++ [block]) d := by
  induction hs with
  | nil a => exact .cons hv (.nil d)
  | cons hfirst _ ih => exact .cons hfirst (ih hv)

/--
Wherever a sweep over `m` is between two configurations, those before that place have been visited and
those behind it are to come, and one that ends well comes to the last place.
-/
structure Follows (m : Matrix) (cs : List Configuration) : Prop where
  places : ∀ {σ : Type} (h : Host σ) (resume : Bool) (memory : Memory) (world : σ) set rest events s,
    Between h m resume memory world set rest events s →
      ∃ done opened blocks, cs = done ++ rest ∧
        Visits h set done (begun m memory opened) blocks s ∧
        events = (validateQueues h.worker m.queues world).1 ++ .noticed .sweepStarted :: blocks.flatten
  finished : ∀ {σ : Type} (h : Host σ) (resume : Bool) (memory : Memory) (world : σ) findings,
    (run h m resume memory world).result = .ok findings →
      ∃ set events s, Between h m resume memory world set [] events s ∧
        (run h m resume memory world).events = events ++ [.noticed .sweepFinished]

theorem Between.visits {rest : List Configuration} {events : List Event} {s : Walk σ}
    (hb : Between h m resume memory world set rest events s) :
    ∃ done opened blocks, m.plan.configurations = done ++ rest ∧
      Visits h set done (begun m memory opened) blocks s ∧
      events = (validateQueues h.worker m.queues world).1 ++
        .noticed .sweepStarted :: blocks.flatten := by
  induction hb with
  | @opened hq keys hc t ho => exact ⟨[], t, [], rfl, .nil _, rfl⟩
  | @visited set c rest events block s t hb hv ih =>
    obtain ⟨done, opened, blocks, hplan, hs, rfl⟩ := ih
    refine ⟨done ++ [c], opened, blocks ++ [block], ?_, hs.snoc (visit_of_eq_ok hv), ?_⟩
    · rw [hplan, List.append_assoc, List.singleton_append]
    · simp

theorem follows_plan (m : Matrix) : Follows m m.plan.configurations := by
  constructor
  · intro σ h resume memory world set rest events s hb
    exact hb.visits
  · intro σ h resume memory world findings hok
    have hstops := run_stops h m resume memory world
    generalize hr : run h m resume memory world = r at hstops hok ⊢
    cases hstops with
    | unopened he hno => exact absurd hok (hno findings)
    | @finished set events s hb => exact ⟨set, events, s, hb, rfl⟩
    | failed hb hv => cases hok

end Order

end Sweep

namespace CommandLine

theorem matrix_of_setup {a : Arguments} {f : SweepFile} {m : Matrix} (hm : sweepMatrix a f = .ok m)
    {w : Workspace} {s : Setup} (hs : setup a f w = .ok s) : s.matrix = m := by
  unfold setup at hs
  rw [hm] at hs
  cases hp : f.timeout.policy with
  | error e =>
    rw [hp] at hs
    cases hs
  | ok policy =>
    rw [hp] at hs
    dsimp only at hs
    cases hworker : workerProgram a f policy.floor w with
    | error e =>
      rw [hworker] at hs
      cases hs
    | ok found =>
      rw [hworker] at hs
      cases hs
      rfl

/--
The lines of the tree show the configurations of the plan, each with its queue, in the order of a sweep,
and the closing line counts them. The lines are read back from their texts one by one, and out of the
whole text if no name of a queue goes over the end of its line.
-/
theorem plan_shows_order {a : Arguments} {f : SweepFile} {m : Matrix} (hm : sweepMatrix a f = .ok m)
    (w : Workspace) :
    let tree := PlanTree.lines m.queues m.plan
    let counts : PlanTree.Counts :=
      ⟨m.plan.configurations.length, m.plan.runs.toNat, m.plan.totalRuns.toNat, m.ops.toNat⟩
    (plan a f w).result = .ok () ∧
    (plan a f w).stdout = "qsweep Plan:\n" ++ String.join (tree.map fun l => l.text ++ "\n") ++
      PlanTree.closing m.plan m.ops ++ "\n" ∧
    (∀ l ∈ tree, PlanLine.read? l.text.toList = some l) ∧
    PlanTree.Counts.read? (PlanTree.closing m.plan m.ops).toList = some counts ∧
    ((∀ q ∈ m.queues, '\n' ∉ q.toList) → PlanTree.read? (plan a f w).stdout = some (tree, counts)) ∧
    PlanTree.configurations m.ops tree = m.plan.configurations ∧
    Sweep.Follows m (PlanTree.configurations m.ops tree) ∧
    ∀ s, setup a f w = .ok s → s.matrix = m := by
  obtain ⟨-, hn, -⟩ := Sweep.axes_of_sweepMatrix hm
  have hplan : plan a f w = ⟨PlanTree.text m, [], .ok (), w⟩ := by rw [plan, hm]
  have hshown := PlanTree.configurations_lines hn
  dsimp only
  rw [hplan, hshown]
  refine ⟨rfl, rfl, ?_, PlanTree.read?_closing m.plan m.ops, ?_, rfl, Sweep.follows_plan m, ?_⟩
  · intro l _
    exact PlanLine.read?_text l
  · intro hq
    exact PlanTree.read?_text hn hq
  · intro s hs
    exact matrix_of_setup hm hs

def twoQueues : SweepFile :=
  { SweepFile.standard with
    sweep := { SweepFile.MatrixSection.standard with
      queues := ["B", "A", "B"], threads := [⟨2, 1⟩], sizes := [128, 64] } }

theorem plan_of_twoQueues :
    sweepMatrix .empty twoQueues = .ok ⟨["B", "A"], [⟨2, 1⟩], [128, 64], [0], 100000, 10⟩ ∧
      PlanTree.read? (plan .empty twoQueues .blank).stdout =
        some ([.heading "B", .entry ⟨2, 1⟩ 128 0, .entry ⟨2, 1⟩ 64 0, .heading "A",
          .entry ⟨2, 1⟩ 128 0, .entry ⟨2, 1⟩ 64 0], ⟨4, 10, 40, 100000⟩) ∧
      Sweep.Follows ⟨["B", "A"], [⟨2, 1⟩], [128, 64], [0], 100000, 10⟩
        [⟨"B", ⟨2, 1⟩, 128, 100000, 0⟩, ⟨"B", ⟨2, 1⟩, 64, 100000, 0⟩, ⟨"A", ⟨2, 1⟩, 128, 100000, 0⟩,
          ⟨"A", ⟨2, 1⟩, 64, 100000, 0⟩] := by
  have hm : sweepMatrix .empty twoQueues =
      .ok ⟨["B", "A"], [⟨2, 1⟩], [128, 64], [0], 100000, 10⟩ := rfl
  obtain ⟨-, -, -, -, htext, -, hfollows, -⟩ := plan_shows_order hm .blank
  exact ⟨hm, htext (by decide), hfollows⟩

/-- The second line of this name has the shape of an entry. -/
def foldedQueue : SweepFile :=
  { SweepFile.standard with
    sweep := { SweepFile.MatrixSection.standard with
      queues := ["A\n│   ├── p:9 c:9 size:9 delay:9ns"], threads := [⟨1, 1⟩], sizes := [64] } }

theorem plan_of_foldedQueue :
    ∃ m tree counts, sweepMatrix .empty foldedQueue = .ok m ∧ m.plan.configurations.length = 1 ∧
      PlanTree.read? (plan .empty foldedQueue .blank).stdout = some (tree, counts) ∧
      PlanTree.configurations m.ops tree =
        [⟨"A", ⟨9, 9⟩, 9, 100000, 9⟩, ⟨"A", ⟨1, 1⟩, 64, 100000, 0⟩] ∧
      PlanTree.configurations m.ops tree ≠ m.plan.configurations := by
  have hm : sweepMatrix .empty foldedQueue =
      .ok ⟨["A\n│   ├── p:9 c:9 size:9 delay:9ns"], [⟨1, 1⟩], [64], [0], 100000, 10⟩ := rfl
  have hread : PlanTree.read? (plan .empty foldedQueue .blank).stdout =
      some ([.heading "A", .entry ⟨9, 9⟩ 9 9, .entry ⟨1, 1⟩ 64 0], ⟨1, 10, 10, 100000⟩) := by
    decide +kernel
  exact ⟨_, _, _, hm, rfl, hread, rfl, by decide⟩

end CommandLine

end CalibratedSweep
