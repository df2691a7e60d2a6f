import CalibratedSweep.Calibration.Calibrator

namespace CalibratedSweep

namespace Calibrator

/-- The calibration of a delay, if it needs no probe or was probed already. -/
def known? (k : Calibrator) (delay : UInt64) : Option CalibrationResult :=
  if delay < k.settings.minDelay then some (.ok .none) else k.results.lookup delay

theorem resolve_of_known {σ : Type} {p : Probe σ} {k : Calibrator} {delay : UInt64}
    {result : CalibrationResult} (h : k.known? delay = some result) (world : σ) :
    k.resolve p delay world = ⟨result, none, k, world⟩ := by
  unfold known? at h
  unfold resolve
  split at h
  · rename_i hmin
    rw [if_pos hmin, Option.some.inj h]
  · rename_i hmin
    rw [if_neg hmin, h]

theorem resolve_of_unknown {σ : Type} {p : Probe σ} {k : Calibrator} {delay : UInt64}
    (h : k.known? delay = none) (world : σ) :
    k.resolve p delay world =
      let r := p (k.settings.request delay) world
      ⟨interpret delay r.1, some (k.settings.request delay),
        { k with results := k.results ++ [(delay, interpret delay r.1)] }, r.2⟩ := by
  unfold known? at h
  unfold resolve
  split at h
  · cases h
  · rename_i hmin
    rw [if_neg hmin, h]

def Grows (k l : Calibrator) : Prop :=
  l.settings = k.settings ∧ ∀ delay result, k.known? delay = some result → l.known? delay = some result

theorem Grows.refl (k : Calibrator) : k.Grows k := ⟨rfl, fun _ _ h => h⟩

theorem Grows.trans {k l m : Calibrator} (h : k.Grows l) (h' : l.Grows m) : k.Grows m :=
  ⟨h'.1.trans h.1, fun d r hd => h'.2 d r (h.2 d r hd)⟩

theorem resolve_grows {σ : Type} (p : Probe σ) (k : Calibrator) (delay : UInt64) (world : σ) :
    k.Grows (k.resolve p delay world).calibrator ∧
      (k.resolve p delay world).calibrator.known? delay = some (k.resolve p delay world).result := by
  cases hk : k.known? delay with
  | some result =>
    rw [resolve_of_known hk]
    exact ⟨.refl k, hk⟩
  | none =>
    rw [resolve_of_unknown hk]
    unfold known? at hk
    split at hk
    · cases hk
    · rename_i hmin
      refine ⟨⟨rfl, fun d r hd => ?_⟩, ?_⟩
      · unfold known? at hd ⊢
        split at hd
        · rename_i hd'
          rw [if_pos hd', hd]
        · rename_i hd'
          rw [if_neg hd', List.lookup_append, hd, Option.some_or]
      · unfold known?
        rw [if_neg hmin, List.lookup_append, hk, Option.none_or, List.lookup_cons_self]

theorem delay_of_probed {σ : Type} {p : Probe σ} {k : Calibrator} {delay : UInt64} {world : σ}
    {q : Calibration.Request} (h : (k.resolve p delay world).probed = some q) : q.delay = delay := by
  cases hk : k.known? delay with
  | some r =>
    rw [resolve_of_known hk] at h
    cases h
  | none =>
    rw [resolve_of_unknown hk] at h
    cases h
    rfl

theorem known?_resolve {σ : Type} {p : Probe σ} {k : Calibrator} {delay d : UInt64} {world : σ}
    {result : CalibrationResult}
    (h : (k.resolve p delay world).calibrator.known? d = some result) :
    k.known? d = some result ∨ d = delay ∧ result = (k.resolve p delay world).result := by
  cases hk : k.known? delay with
  | some r =>
    rw [resolve_of_known hk] at h
    exact .inl h
  | none =>
    rw [resolve_of_unknown hk] at h ⊢
    dsimp only at h ⊢
    unfold known? at h ⊢
    split at h
    · rename_i hmin
      rw [if_pos hmin]
      exact .inl h
    · rename_i hmin
      rw [if_neg hmin]
      rw [List.lookup_append, Option.or_eq_some_iff] at h
      obtain h | ⟨-, h⟩ := h
      · exact .inl h
      · rw [List.lookup_cons] at h
        split at h
        · rename_i he
          exact .inr ⟨eq_of_beq he, (Option.some.inj h).symm⟩
        · cases h

end Calibrator

def Calibration.Settings.answered (s : Settings)
    (answer : Request → Except Error String) (delay : UInt64) : CalibrationResult :=
  if delay < s.minDelay then .ok .none else Calibrator.interpret delay (answer (s.request delay))

namespace Calibrator

def Agrees (answer : Calibration.Request → Except Calibration.Error String) (k : Calibrator) :
    Prop :=
  ∀ delay result, k.known? delay = some result → result = k.settings.answered answer delay

variable {answer : Calibration.Request → Except Calibration.Error String}

theorem agrees_empty (s : Calibration.Settings) : (empty s).Agrees answer := by
  intro delay result h
  unfold known? at h
  split at h
  · rename_i hmin
    rw [Calibration.Settings.answered, if_pos hmin]
    exact (Option.some.inj h).symm
  · cases h

theorem Agrees.resolve {σ : Type} {p : Probe σ} {k : Calibrator} (h : k.Agrees answer) {world : σ}
    (hp : ∀ q, (p q world).1 = answer q) (delay : UInt64) :
    (k.resolve p delay world).result = k.settings.answered answer delay ∧
      (k.resolve p delay world).calibrator.Agrees answer := by
  have hresult : (k.resolve p delay world).result = k.settings.answered answer delay := by
    cases hk : k.known? delay with
    | some r =>
      rw [resolve_of_known hk]
      exact h delay r hk
    | none =>
      rw [resolve_of_unknown hk]
      unfold known? at hk
      split at hk
      · cases hk
      · rename_i hmin
        rw [Calibration.Settings.answered, if_neg hmin, ← hp (k.settings.request delay)]
  refine ⟨hresult, fun d r hd => ?_⟩
  rw [(k.resolve_grows p delay world).1.1]
  obtain hd | ⟨rfl, rfl⟩ := known?_resolve hd
  · exact h d r hd
  · exact hresult

end Calibrator

end CalibratedSweep
