import CalibratedSweep.Proofs.Files.Workspace
import CalibratedSweep.Proofs.Sink.Content

namespace CalibratedSweep.Sink

open Workspace (Holds Vacant view sinkFile)

variable {path : String} {s : Schema} {w t : Workspace} {content : Bytes}

theorem mapError_eq_ok_iff {ε ε' α : Type} {f : ε → ε'} {x : Except ε α} {a : α} :
    x.mapError f = .ok a ↔ x = .ok a := by
  cases x with
  | ok b =>
    have hb : (Except.ok b : Except ε α).mapError f = .ok b := rfl
    rw [hb, Except.ok.injEq, Except.ok.injEq]
  | error e =>
    have he : (Except.error e : Except ε α).mapError f = .error (f e) := rfl
    simp [he]

theorem completed_eq_ok_iff {keys : List RowKey} :
    completed (sinkFile path) s w = .ok keys ↔ (view path w = .ok .missing ∧ keys = []) ∨
      ∃ content, view path w = .ok (.file content) ∧ keysIn s content = .ok keys := by
  have hview : (sinkFile path).view w = view path w := rfl
  unfold completed
  rw [hview]
  cases hv : view path w with
  | error e => simp
  | ok v =>
    cases v with
    | missing => simp [eq_comm]
    | directory => simp
    | file content => simp [mapError_eq_ok_iff]

theorem completed_of_view {keys : List RowKey} (h : view path w = .ok (.file content))
    (hk : keysIn s content = .ok keys) : completed (sinkFile path) s w = .ok keys :=
  completed_eq_ok_iff.mpr (.inr ⟨content, h, hk⟩)

theorem keysIn_of_completed {keys : List RowKey} (h : view path w = .ok (.file content))
    (hk : completed (sinkFile path) s w = .ok keys) : keysIn s content = .ok keys := by
  obtain ⟨hm, -⟩ | ⟨found, hf, hk⟩ := completed_eq_ok_iff.mp hk
  · rw [hm] at h; cases h
  · rw [hf] at h; cases h; exact hk

theorem keysIn_nil (s : Schema) : keysIn s [] = .ok [] := rfl

theorem completed_vacant (h : Vacant path w) : completed (sinkFile path) s w = .ok [] := by
  obtain hm | he := h.1
  · exact completed_eq_ok_iff.mpr (.inl ⟨hm, rfl⟩)
  · exact completed_of_view he (keysIn_nil s)

theorem checkHeader_of_keysIn {keys : List RowKey} (hne : content ≠ [])
    (h : keysIn s content = .ok keys) : checkHeader s content = .ok () := by
  have he : content.isEmpty = false := by simpa using hne
  rw [keysIn, he, if_neg Bool.false_ne_true] at h
  cases hc : checkHeader s content with
  | ok u => rfl
  | error e => rw [hc] at h; cases h

theorem needsHeader_vacant (h : Vacant path w) : needsHeader (sinkFile path) s w = .ok true := by
  have hview : (sinkFile path).view w = view path w := rfl
  unfold needsHeader
  rw [hview]
  obtain hv | hv := h.1
  · rw [hv]
  · rw [hv]
    rfl

theorem needsHeader_of_keysIn {keys : List RowKey} (hv : view path w = .ok (.file content))
    (hne : content ≠ []) (h : keysIn s content = .ok keys) :
    needsHeader (sinkFile path) s w = .ok false := by
  have hview : (sinkFile path).view w = view path w := rfl
  have he : content.isEmpty = false := by simpa using hne
  unfold needsHeader
  rw [hview, hv]
  dsimp only
  rw [he, if_neg Bool.false_ne_true, checkHeader_of_keysIn hne h]
  rfl

theorem extend_holds (h : Holds path content w) (b : Bytes) :
    ∃ t, extend (sinkFile path) b w = (.ok (), t) ∧ Holds path (content ++ b) t := by
  obtain ⟨t, ht, hh⟩ := h.extend b
  have hext : (sinkFile path).extend b w = (.ok (), t) := ht
  exact ⟨t, by rw [extend, hext], hh⟩

theorem writeRow_holds (h : Holds path content w) (r : Row) :
    ∃ t, writeRow (sinkFile path) s r w = (.ok (), t) ∧ Holds path (content ++ rowLine s r) t :=
  extend_holds h (rowLine s r)

theorem start_eq_ok_iff {mode : OpenMode} :
    start (sinkFile path) mode w = (.ok (), t) ↔ Workspace.start path mode w = (.ok (), t) := by
  have hstart : (sinkFile path).start mode w = Workspace.start path mode w := rfl
  unfold start
  rw [hstart]
  obtain ⟨_ | ⟨⟨⟩⟩, u⟩ := Workspace.start path mode w <;> simp

theorem create_vacant (h : Vacant path w) (s : Schema) :
    ∃ t, create (sinkFile path) s w = (.ok (), t) ∧ Holds path (headerLine s) t := by
  obtain ⟨u, hu, hh⟩ := h.start .truncate
  obtain ⟨t, ht, hh⟩ := extend_holds hh (headerLine s)
  exact ⟨t, by rw [create, start_eq_ok_iff.mpr hu]; exact ht, hh⟩

theorem create_of_view (h : view path w = .ok (.file content)) (s : Schema) :
    ∃ t, create (sinkFile path) s w = (.ok (), t) ∧ Holds path (headerLine s) t := by
  obtain ⟨u, hu, hh⟩ := Workspace.start_of_view h .truncate
  obtain ⟨t, ht, hh⟩ := extend_holds hh (headerLine s)
  exact ⟨t, by rw [create, start_eq_ok_iff.mpr hu]; exact ht, hh⟩

theorem append_vacant (h : Vacant path w) (s : Schema) :
    ∃ t, append (sinkFile path) s w = (.ok (), t) ∧ Holds path (headerLine s) t := by
  obtain ⟨u, hu, hh⟩ := h.start .append
  obtain ⟨t, ht, hh⟩ := extend_holds hh (headerLine s)
  exact ⟨t, by rw [append, needsHeader_vacant h, start_eq_ok_iff.mpr hu]; exact ht, hh⟩

theorem vacant_of_view (h : view path w = .ok (.file [])) : Vacant path w := by
  obtain ⟨t, ht, hh⟩ := Workspace.start_of_view h .append
  exact ⟨.inr h, t, ht, hh.view⟩

theorem vacant_of_start {mode : OpenMode} (h : Vacant path w)
    (ht : start (sinkFile path) mode w = (.ok (), t)) : Vacant path t := by
  obtain ⟨u, hu, hh⟩ := h.start mode
  obtain rfl : t = u := congrArg Prod.snd ((start_eq_ok_iff.mp ht).symm.trans hu)
  exact vacant_of_view hh.view

theorem append_of_keysIn {keys : List RowKey} (hv : view path w = .ok (.file content))
    (hne : content ≠ []) (h : keysIn s content = .ok keys) :
    ∃ t, append (sinkFile path) s w = (.ok (), t) ∧ Holds path content t := by
  obtain ⟨t, ht, hh⟩ := Workspace.start_of_view hv .append
  exact ⟨t, by rw [append, needsHeader_of_keysIn hv hne h, start_eq_ok_iff.mpr ht]; rfl, hh⟩

theorem holds_of_create (h : create (sinkFile path) s w = (.ok (), t)) :
    Holds path (headerLine s) t := by
  rcases hs : start (sinkFile path) .truncate w with ⟨r, u⟩
  rw [create, hs] at h
  cases r with
  | error e => cases h
  | ok _ =>
    obtain ⟨found, hh, hempty⟩ := Workspace.holds_of_start (start_eq_ok_iff.mp hs)
    obtain ⟨t', ht', hh⟩ := extend_holds hh (headerLine s)
    have he : t' = t := congrArg Prod.snd (ht'.symm.trans h)
    rw [hempty rfl] at hh
    exact he ▸ hh

theorem holds_of_append (h : append (sinkFile path) s w = (.ok (), t)) :
    ∃ found, Holds path found t ∧ found ≠ [] ∧
      ∀ content, content ≠ [] → view path w = .ok (.file content) → found = content := by
  have hview : (sinkFile path).view w = view path w := rfl
  unfold append at h
  cases hn : needsHeader (sinkFile path) s w with
  | error e => rw [hn] at h; cases h
  | ok new =>
    rcases hs : start (sinkFile path) .append w with ⟨r, u⟩
    rw [hn, hs] at h
    cases r with
    | error e => cases h
    | ok _ =>
      obtain ⟨found, hh, -⟩ := Workspace.holds_of_start (start_eq_ok_iff.mp hs)
      cases new with
      | false =>
        cases h
        have hsame (content : Bytes) (hv : view path w = .ok (.file content)) : found = content := by
          obtain ⟨u', hu', hh'⟩ := Workspace.start_of_view hv .append
          have he : u' = t := congrArg Prod.snd (hu'.symm.trans (start_eq_ok_iff.mp hs))
          have hfound := (he ▸ hh').view
          rw [hh.view] at hfound
          cases hfound; rfl
        refine ⟨found, hh, ?_, fun content _ hv => hsame content hv⟩
        -- Only a file with content needs no header.
        unfold needsHeader at hn
        rw [hview] at hn
        split at hn
        · cases hn
        · cases hn
        · cases hn
        · rename_i content hv
          split at hn
          · cases hn
          · rename_i hempty
            rw [hsame content hv]
            simpa using hempty
      | true =>
        obtain ⟨t', ht', hh'⟩ := extend_holds hh (headerLine s)
        have he : t' = t := congrArg Prod.snd (ht'.symm.trans h)
        refine ⟨_, he ▸ hh', by simp [headerLine_ne_nil], fun content hne hv => ?_⟩
        have hempty : content.isEmpty = false := by simpa using hne
        unfold needsHeader at hn
        rw [hview, hv] at hn
        dsimp only at hn
        rw [hempty, if_neg Bool.false_ne_true] at hn
        cases hc : checkHeader s content <;> rw [hc] at hn <;> cases hn

end CalibratedSweep.Sink
