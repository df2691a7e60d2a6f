import CalibratedSweep.Proofs.Sweep.Calls
/-!
Attempts at a sweep on one file, each cut off between two of its events or not at all. What an
attempt finds is nothing, or a file with readable rows that ends between two records; it leaves what
it found, or that file with the rows behind it that were appended so far.
-/

namespace CalibratedSweep.Sweep

open Workspace (Holds Vacant sinkFile view)

structure Attempt where
  State : Type
  worker : Worker State
  probe : Probe State
  state : State
  memory : Memory
  resume : Bool

namespace Attempt

variable (a : Attempt) (path : String) (m : Matrix) (w : Workspace)

def host : Host (Workspace × a.State) := .apart a.worker a.probe (sinkFile path)

def ending : Ending (Workspace × a.State) := run (a.host path) m a.resume a.memory (w, a.state)

def checks : List Event := (validateQueues (a.host path).worker m.queues (w, a.state)).1

def Reaches (before : List Event) (t : Workspace) : Prop :=
  before <+: (a.ending path m w).events ∧ ∃ x k, Happened (a.host path) (layout m a.memory) a.resume
    before ⟨(w, a.state), a.memory.calibrator⟩ ⟨(t, x), k⟩

end Attempt

/-- The workspaces that attempts leave behind, each cut off anywhere; all but the first resume. -/
inductive Left (path : String) (m : Matrix) (allowed : Attempt → Prop) : Workspace → Prop
  | vacant {w : Workspace} (hv : Vacant path w) : Left path m allowed w
  | headless {w t : Workspace} {mode : OpenMode} (hw : Left path m allowed w) (hv : Vacant path w)
    (ht : Sink.start (sinkFile path) mode w = (.ok (), t)) : Left path m allowed t.closed
  | cut {w t : Workspace} {a : Attempt} {before : List Event} (hw : Left path m allowed w)
    (ha : allowed a) (hr : a.resume = true ∨ Vacant path w) (ht : a.Reaches path m w before t) :
    Left path m allowed t.closed

/-- The file to be opened is vacant and will hold a header, or is to be resumed and has `keys`. -/
def Ready (path : String) (s : Schema) (resume : Bool) (w : Workspace) (opened : Bytes)
    (keys : List RowKey) : Prop :=
  Vacant path w ∧ opened = Sink.headerLine s ∧ keys = [] ∨
    resume = true ∧ opened ≠ [] ∧ view path w = .ok (.file opened) ∧ Sink.keysIn s opened = .ok keys

variable {path : String} {s : Schema} {resume : Bool} {w t : Workspace} {opened : Bytes}
  {keys : List RowKey} {a : Attempt} {m : Matrix}

theorem Ready.opens (h : Ready path s resume w opened keys) :
    (if resume then Sink.completed (sinkFile path) s w else .ok []) = .ok keys ∧
      ∃ u, openFile (sinkFile path) s resume w = (.ok (), u) ∧ Holds path opened u := by
  obtain ⟨hv, rfl, rfl⟩ | ⟨rfl, hne, hview, hkeys⟩ := h
  · cases resume with
    | true => exact ⟨Sink.completed_vacant hv, Sink.append_vacant hv s⟩
    | false => exact ⟨rfl, Sink.create_vacant hv s⟩
  · exact ⟨Sink.completed_of_view hview hkeys, Sink.append_of_keysIn hview hne hkeys⟩

structure Course (a : Attempt) (path : String) (m : Matrix) (w : Workspace) (opened : Bytes)
    (keys : List RowKey) (u : Workspace) (blocks : List (List Event))
    (b : Walk (Workspace × a.State)) : Prop where
  holds : Holds path opened u
  file : openFile (sinkFile path) (layout m a.memory) a.resume w = (.ok (), u)
  visits : Visits (a.host path) ⟨layout m a.memory, m.runs, keys⟩ m.plan.configurations
    (begun m a.memory (u, (checked (a.host path) m (w, a.state)).2)) blocks b
  events : (a.ending path m w).events =
    a.checks path m w ++ (.noticed .sweepStarted :: blocks.flatten ++ [.noticed .sweepFinished])
  result : ∃ findings, (a.ending path m w).result = .ok findings
  world : (a.ending path m w).world = b.world

theorem exists_course (h : Ready path (layout m a.memory) a.resume w opened keys)
    (hq : (validateQueues (a.host path).worker m.queues (w, a.state)).2.1 = []) :
    ∃ u blocks b, Course a path m w opened keys u blocks b := by
  obtain ⟨hc, u, hu, hh⟩ := h.opens
  have hok : ∃ findings, (a.ending path m w).result = .ok findings := run_ok hq hc hu
  obtain ⟨findings, hfindings⟩ := hok
  obtain ⟨keys', opened', blocks, b, -, hc', ho, hv, hrun⟩ := ending_of_eq_ok hfindings
  rw [Attempt.host, completedRows_apart, checked_apart] at hc'
  rw [Attempt.host, openSink_apart, checked_apart] at ho
  obtain rfl : keys' = keys := Except.ok.inj (hc'.symm.trans hc)
  rw [hu] at ho
  obtain rfl := (Prod.mk.inj ho).2.symm
  exact ⟨u, blocks, b, hh, hu, hv, congrArg Ending.events hrun, ⟨findings, hfindings⟩,
    congrArg Ending.world hrun⟩

theorem Unopened.mono {a b : List Event} (hp : a <+: b) (hb : Unopened b) : Unopened a :=
  fun h => hb (hp.mem h)

theorem reaches_in_checks {before : List Event} (hr : a.Reaches path m w before t)
    (hb : before <+: a.checks path m w) : t = w := by
  obtain ⟨-, x, k, hh⟩ := hr
  have hrows : before.filterMap Event.row? = [] := by
    have hp := hb.filterMap Event.row?
    rw [Attempt.checks, (call?_validateQueues _ _ _).2] at hp
    exact List.prefix_nil.mp hp
  exact hh.untouched (Unopened.mono hb (unopened_validateQueues _ _ _)) hrows

theorem reaches_of_invalid {before : List Event}
    (hq : (validateQueues (a.host path).worker m.queues (w, a.state)).2.1 ≠ [])
    (hr : a.Reaches path m w before t) : t = w := by
  have hb := hr.1
  rw [Attempt.ending, run_of_invalid hq] at hb
  exact reaches_in_checks hr hb

theorem rows_mono {pre events : List Event} {n : Notice}
    (hp : pre <+: events ++ [.noticed n]) :
    pre.filterMap Event.row? <+: events.filterMap Event.row? := by
  have hnone : [Event.noticed n].filterMap Event.row? = [] := rfl
  have hmap := hp.filterMap Event.row?
  rwa [List.filterMap_append, hnone, List.append_nil] at hmap

theorem Course.reaches {u : Workspace} {blocks : List (List Event)}
    {b : Walk (Workspace × a.State)} (hc : Course a path m w opened keys u blocks b)
    {before : List Event} (hr : a.Reaches path m w before t) :
    before <+: a.checks path m w ∧ t = w ∨
      ∃ pre, before = a.checks path m w ++ .noticed .sweepStarted :: pre ∧
      pre <+: blocks.flatten ++ [.noticed .sweepFinished] ∧
      Holds path (opened ++ (pre.filterMap Event.row?).flatMap (Sink.rowLine (layout m a.memory)))
        t := by
  obtain ⟨after, hb⟩ := hr.1
  rw [hc.events] at hb
  obtain ⟨front, hfront, -⟩ | ⟨rest, rfl, hrest⟩ := List.append_eq_append_iff.mp hb
  · have hp : before <+: a.checks path m w := ⟨front, hfront.symm⟩
    exact .inl ⟨hp, reaches_in_checks hr hp⟩
  · cases rest with
    | nil =>
      have hp : a.checks path m w ++ [] <+: a.checks path m w := by simp
      exact .inl ⟨hp, reaches_in_checks hr hp⟩
    | cons e pre =>
      obtain ⟨rfl, hpre⟩ := List.cons.inj hrest
      refine .inr ⟨pre, rfl, ⟨after, hpre.symm⟩, ?_⟩
      obtain ⟨-, x, k, hh⟩ := hr
      obtain ⟨n, hchecks, hh⟩ := hh.split
      have hn : n.world.1 = w :=
        hchecks.untouched (unopened_validateQueues _ _ _) (call?_validateQueues _ _ _).2
      cases hh with
      | cons he hh =>
        cases he with
        | opened ho =>
          rw [Attempt.host, openSink_apart, hn, hc.file] at ho
          have hend : Unopened (blocks.flatten ++ [.noticed .sweepFinished]) := by
            have hblocks := hc.visits.unopened
            unfold Unopened at hblocks ⊢
            simp [hblocks]
          refine hh.holds (Unopened.mono ⟨after, hpre.symm⟩ hend) ?_
          obtain rfl := (Prod.mk.inj ho).2.symm
          exact hc.holds
        | noticed hn => exact absurd rfl hn

end CalibratedSweep.Sweep
