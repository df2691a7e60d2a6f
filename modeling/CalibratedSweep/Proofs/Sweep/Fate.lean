import CalibratedSweep.Proofs.Calibration.Needs
import CalibratedSweep.Proofs.Sweep.Blocks
/-!
The fates of configurations. Whatever a visit comes to, its events are those of a calibration, then
those of runs, and then those that tell its fate.
-/

namespace CalibratedSweep

namespace Sweep

inductive Fate where
  | resumed
  | uncalibrated
  | incomplete (calls : List Call) (missing : Incomplete)
  | complete (calls : List Call) (row : Row)

namespace Fate

def isResumed : Fate → Bool
  | resumed => true
  | _ => false

def isUncalibrated : Fate → Bool
  | uncalibrated => true
  | _ => false

def calls : Fate → List Call
  | resumed | uncalibrated => []
  | incomplete calls _ | complete calls _ => calls

def row? : Fate → Option Row
  | complete _ row => some row
  | _ => none

def missing? : Fate → Option Incomplete
  | incomplete _ missing => some missing
  | _ => none

def isMeasured (fate : Fate) : Bool := fate.row?.isSome || fate.missing?.isSome

/--
What `c` can come to; `known` has the calibrations. Of the runs of a configuration without a row the
last one alone has no score.
-/
inductive Of (set : Setting) (known : UInt64 → Option CalibrationResult) (c : Configuration) :
    Fate → Prop
  | resumed (hk : set.schema.keyOf (.ofConfiguration c set.runs) ∈ set.completed) :
    Of set known c resumed
  | uncalibrated (hk : set.schema.keyOf (.ofConfiguration c set.runs) ∉ set.completed)
      {e : Calibration.Error} (hc : known c.delay = some (.error e)) : Of set known c uncalibrated
  | incomplete (hk : set.schema.keyOf (.ofConfiguration c set.runs) ∉ set.completed)
      {k : Calibration} (hc : known c.delay = some (.ok k)) (bound : Duration)
      {scores : List Float} {bad : Outcome} (hl : scores.length < set.runs.toNat)
      (hb : bad.isSuccess = false) {missing : Incomplete}
      (hrow : reduce c (scores.map Outcome.success ++ [bad]) set.runs = .error missing) :
      Of set known c
        (incomplete ((scores.map Outcome.success ++ [bad]).map (.mk c k bound)) missing)
  | complete (hk : set.schema.keyOf (.ofConfiguration c set.runs) ∉ set.completed)
      {k : Calibration} (hc : known c.delay = some (.ok k)) (bound : Duration)
      {scores : List Float} (hl : scores.length = set.runs.toNat) :
      Of set known c
        (complete ((scores.map Outcome.success).map (.mk c k bound)) (rowOf c set.runs scores))

inductive Settles (known : UInt64 → Option CalibrationResult) (c : Configuration) :
    Fate → List Event → Prop
  | resumed : Settles known c resumed []
  | uncalibrated {e : Calibration.Error} (hc : known c.delay = some (.error e)) :
    Settles known c uncalibrated [.noticed (.uncalibrated c e)]
  | incomplete (calls : List Call) {missing : Incomplete} (hm : missing.configuration = c)
      (p : Progress) :
    Settles known c (incomplete calls missing)
      [.noticed (.incomplete missing), .noticed (.progress c p)]
  | complete (calls : List Call) {row : Row} (hr : row.configuration = c) (p : Progress) :
    Settles known c (complete calls row)
      [.noticed (.rowWritten row), .appended row, .noticed (.rowFlushed row),
        .noticed (.progress c p)]

/--
The events of a visit to `c` with this fate. Its calibration is told only if the delay was probed for
it, and stays known.
-/
inductive Told (known : UInt64 → Option CalibrationResult) (c : Configuration) (fate : Fate) :
    List Event → Prop
  | intro {probed : Option Calibration.Request} {result : CalibrationResult}
    (hp : ∀ q, probed = some q → q.delay = c.delay ∧ known c.delay = some result)
    {k : Calibration} {bound : Duration} {outcomes : List Outcome}
    (hruns : fate.calls = outcomes.map (.mk c k bound)) {last : List Event}
    (hl : fate.Settles known c last) :
    Told known c fate
      (calibrationEvents c.delay probed result ++ runEvents c k bound 1 outcomes ++ last)

variable {known : UInt64 → Option CalibrationResult} {c : Configuration} {fate : Fate}
  {events : List Event}

theorem Told.resumed : Fate.resumed.Told known c [] := by
  have htold : Fate.resumed.Told known c (calibrationEvents c.delay none (.ok .none) ++
      runEvents c .none ⟨0⟩ 1 [] ++ []) := by
    refine .intro (fun q hq => ?_) rfl .resumed
    cases hq
  exact htold

theorem Told.uncalibrated {e : Calibration.Error} (hc : known c.delay = some (.error e))
    {probed : Option Calibration.Request}
    (hp : ∀ q, probed = some q → q.delay = c.delay) :
    Fate.uncalibrated.Told known c
      (calibrationEvents c.delay probed (.error e) ++ [.noticed (.uncalibrated c e)]) := by
  have htold : Fate.uncalibrated.Told known c (calibrationEvents c.delay probed (.error e) ++
      runEvents c .none ⟨0⟩ 1 [] ++ [.noticed (.uncalibrated c e)]) := by
    exact .intro (fun q hq => ⟨hp q hq, hc⟩) rfl (.uncalibrated hc)
  rwa [runEvents, List.append_nil] at htold

/-- What is neither about a calibration nor about a run is at the end of a visit. -/
theorem Told.filterMap {α : Type} {f : Event → Option α}
    (hf : ∀ e : Event, e.Calibrates → f e = none) (hf' : ∀ e : Event, e.Runs → f e = none)
    (h : fate.Told known c events) :
    ∃ last, fate.Settles known c last ∧ events.filterMap f = last.filterMap f := by
  obtain ⟨hp, hruns, hl⟩ := h
  refine ⟨_, hl, ?_⟩
  rw [List.filterMap_append, List.filterMap_append, filterMap_calibrationEvents hf,
    filterMap_runEvents hf']
  rfl

theorem Told.calibration (h : fate.Told known c events) :
    ∃ (probed : Option Calibration.Request) (result : CalibrationResult),
      (∀ q, probed = some q → q.delay = c.delay ∧ known c.delay = some result) ∧
      ∀ {α : Type} {f : Event → Option α}, (∀ e : Event, e.Runs → f e = none) →
        (∀ last, fate.Settles known c last → last.filterMap f = []) →
        events.filterMap f = (calibrationEvents c.delay probed result).filterMap f := by
  obtain ⟨hp, hruns, hl⟩ := h
  refine ⟨_, _, hp, fun hf hf' => ?_⟩
  rw [List.filterMap_append, List.filterMap_append, filterMap_runEvents hf, hf' _ hl,
    List.append_nil, List.append_nil]

theorem Told.calls (h : fate.Told known c events) :
    events.filterMap Event.call? = fate.calls := by
  obtain ⟨hp, hruns, hl⟩ := h
  rw [(call?_block c _ _ _ _ _ _).1, hruns]
  cases hl <;> exact List.append_nil _

theorem Told.row (h : fate.Told known c events) :
    events.filterMap Event.row? = fate.row?.toList := by
  obtain ⟨last, hl, hrow⟩ := h.filterMap (f := Event.row?) (fun _ he => by cases he <;> rfl)
    (fun _ he => by cases he <;> rfl)
  rw [hrow]
  cases hl <;> rfl

end Fate

inductive Story (known : UInt64 → Option CalibrationResult) :
    List Configuration → List Fate → List Event → Prop
  | nil : Story known [] [] []
  | cons {c : Configuration} {fate : Fate} {block : List Event} (ht : fate.Told known c block)
    {cs : List Configuration} {fates : List Fate} {events : List Event}
    (hs : Story known cs fates events) : Story known (c :: cs) (fate :: fates) (block ++ events)

def comingTo (p : Fate → Bool) (cs : List Configuration) (fates : List Fate) :
    List Configuration :=
  ((cs.zip fates).filter fun x => p x.2).map Prod.fst

namespace Story

variable {known : UInt64 → Option CalibrationResult} {cs : List Configuration} {fates : List Fate}
  {events : List Event} {α : Type} {f : Event → Option α}

theorem flatMap {g : Fate → List α} (hg : ∀ {c : Configuration} {fate : Fate} {block : List Event},
      fate.Told known c block → block.filterMap f = g fate) (hs : Story known cs fates events) :
    events.filterMap f = fates.flatMap g := by
  induction hs with
  | nil => rfl
  | cons ht _ ih => rw [List.filterMap_append, hg ht, ih, List.flatMap_cons]

theorem filterMap {g : Fate → Option α}
    (hg : ∀ {c : Configuration} {fate : Fate} {block : List Event},
      fate.Told known c block → block.filterMap f = (g fate).toList)
    (hs : Story known cs fates events) : events.filterMap f = fates.filterMap g :=
  (hs.flatMap hg).trans (List.filterMap_eq_flatMap_toList g fates).symm

theorem comingTo {f : Event → Option Configuration} {p : Fate → Bool}
    (hp : ∀ {c : Configuration} {fate : Fate} {block : List Event},
      fate.Told known c block → block.filterMap f = if p fate then [c] else [])
    (hs : Story known cs fates events) : events.filterMap f = comingTo p cs fates := by
  induction hs with
  | nil => rfl
  | @cons c fate block ht cs fates events _ ih =>
    rw [List.filterMap_append, hp ht, ih, Sweep.comingTo, Sweep.comingTo, List.zip_cons_cons,
      List.filter_cons]
    split <;> rfl

theorem calls (hs : Story known cs fates events) :
    events.filterMap Event.call? = fates.flatMap Fate.calls := hs.flatMap Fate.Told.calls

theorem rows (hs : Story known cs fates events) :
    events.filterMap Event.row? = fates.filterMap Fate.row? := hs.filterMap Fate.Told.row

end Story

end Sweep

end CalibratedSweep
