import CalibratedSweep.Sweep.Event
/-!
Which notice a line of the log comes from. The level is known by the first letter of a line; of the
texts only those about a row read alike, and only those about progress begin with a bracket.
-/

namespace CalibratedSweep

namespace Event

def announced? : Event → Option Row
  | .noticed (.rowWritten r) => some r
  | _ => none

def flushed? : Event → Option Row
  | .noticed (.rowFlushed r) => some r
  | _ => none

def written? : Level → Event → Option Row
  | .info => announced?
  | .debug => flushed?
  | .warn | .error => fun _ => none

def shown? : Event → Option (Configuration × Progress)
  | .noticed (.progress c p) => some (c, p)
  | _ => none

end Event

theorem head?_append {a b : String} {x : Char} (h : a.toList.head? = some x) :
    (a ++ b).toList.head? = some x := by
  rw [String.toList_append, List.head?_append, h]
  rfl

namespace Notice

theorem logLine_eq_iff (n : Notice) (l : Level) (text : String) :
    n.logLine = l.name ++ " " ++ text ↔ n.level = l ∧ n.text = text := by
  constructor
  · intro h
    have hlist := congrArg String.toList h
    rw [logLine] at hlist
    generalize n.level = level, n.text = found at hlist ⊢
    rw [← String.toList_inj]
    cases level <;> cases l <;> simp [Level.name] at hlist <;> exact ⟨rfl, hlist⟩
  · rintro ⟨rfl, rfl⟩
    rfl

theorem logLine_progress (c : Configuration) (p : Progress) :
    (Notice.progress c p).logLine = "INFO [" ++ c.queue ++ " p:" ++ toString c.threads.producers ++
      " c:" ++ toString c.threads.consumers ++ " size:" ++ toString c.capacity ++ " delay:" ++
      toString c.delay ++ "] " ++ toString p.step ++ "/" ++ toString p.total ++ " (" ++
      String.ofList (Decimal.fixed 2 (if p.total = 0 then 100.0
        else p.step.toFloat * 100.0 / p.total.toFloat)) ++ "%)" := by
  have hlevel : (Notice.progress c p).level.name = "INFO" := rfl
  have htext : (Notice.progress c p).text = "[" ++ c.queue ++ " " ++ c.threads.text ++ " size:" ++
      toString c.capacity ++ " delay:" ++ toString c.delay ++ "] " ++ p.text := rfl
  have hfront : "INFO [" = "INFO" ++ " " ++ "[" := by decide
  have hthreads : " p:" = " " ++ "p:" := by decide
  rw [Notice.logLine, hlevel, htext, ThreadPair.text, Progress.text, Progress.percent, hfront,
    hthreads]
  generalize String.ofList _ = percent
  simp only [String.append_assoc]

theorem head?_text_progress (c : Configuration) (p : Progress) :
    (Notice.progress c p).text.toList.head? = some '[' := by
  unfold text
  repeat apply head?_append
  rfl

theorem text_eq_row_written_iff (n : Notice) :
    n.text = "row written" ↔ (∃ r, n = .rowWritten r) ∨ ∃ r, n = .rowFlushed r := by
  constructor
  · intro htext
    have hother {x : Char} (hx : n.text.toList.head? = some x) : x = 'r' := by
      rw [htext] at hx
      exact (Option.some.inj hx).symm
    cases n with
    | rowWritten r => exact .inl ⟨r, rfl⟩
    | rowFlushed r => exact .inr ⟨r, rfl⟩
    | progress c p => cases hother (head?_text_progress c p)
    | runFailed n c o =>
      have herror : (Notice.runFailed n c o).text.toList.head? = some 'E' := by
        unfold text
        repeat apply head?_append
        rfl
      cases hother herror
    | runTimedOut n c =>
      have htimeout : (Notice.runTimedOut n c).text.toList.head? = some 'T' := by
        unfold text
        repeat apply head?_append
        rfl
      cases hother htimeout
    | incomplete i =>
      have hmissing : (Notice.incomplete i).text.toList.head? = some 'i' := head?_append rfl
      cases hother hmissing
    | queueValidated q => exact absurd htext (by decide : "queue validated" ≠ "row written")
    | queueRejected q r => exact absurd htext (by decide : "invalid queue" ≠ "row written")
    | sweepStarted => exact absurd htext (by decide : "starting sweep" ≠ "row written")
    | delayCalibrated d k => exact absurd htext (by decide : "calibrated delay" ≠ "row written")
    | calibrationFailed d e => exact absurd htext (by decide : "calibration failed" ≠ "row written")
    | uncalibrated c e =>
      exact absurd htext (by decide : "skipping configuration, delay not calibrated" ≠ "row written")
    | sweepFinished => exact absurd htext (by decide : "sweep finished" ≠ "row written")
  · rintro (⟨r, rfl⟩ | ⟨r, rfl⟩) <;> rfl

end Notice

namespace Event

theorem logFrom_noticed (threshold : Level) (n : Notice) (events : List Event) :
    logFrom threshold (.noticed n :: events) =
      if threshold.rank ≤ n.level.rank then n.logLine :: logFrom threshold events
      else logFrom threshold events := by
  simp only [logFrom, List.filterMap_cons, notice?, List.filter_cons, decide_eq_true_eq]
  split <;> rfl

theorem logFrom_other (threshold : Level) {e : Event} (he : e.notice? = none)
    (events : List Event) : logFrom threshold (e :: events) = logFrom threshold events := by
  rw [logFrom, logFrom, List.filterMap_cons, he]

theorem written?_noticed {l : Level} {n : Notice} {r : Row}
    (h : written? l (.noticed n) = some r) : n.level = l ∧ n.text = "row written" := by
  cases l <;> cases n <;> first | exact ⟨rfl, rfl⟩ | cases h

theorem count_row_written (threshold l : Level) (events : List Event) :
    (logFrom threshold events).count (l.name ++ " " ++ "row written") =
      if threshold.rank ≤ l.rank then (events.filterMap (written? l)).length else 0 := by
  induction events with
  | nil => simp [logFrom]
  | cons e events ih =>
    cases e with
    | noticed n =>
      rw [logFrom_noticed, List.filterMap_cons]
      cases hr : written? l (.noticed n) with
      | some r =>
        obtain ⟨hlevel, htext⟩ := written?_noticed hr
        have hline := (n.logLine_eq_iff l _).mpr ⟨hlevel, htext⟩
        rw [hlevel, hline]
        split <;> rename_i hshown
        · rw [List.count_cons_self, ih, if_pos hshown]
          rfl
        · rw [ih, if_neg hshown]
      | none =>
        have hline : n.logLine ≠ l.name ++ " " ++ "row written" := by
          intro he
          obtain ⟨rfl, htext⟩ := (n.logLine_eq_iff l _).mp he
          obtain ⟨r, rfl⟩ | ⟨r, rfl⟩ := n.text_eq_row_written_iff.mp htext <;> cases hr
        split
        · rw [List.count_cons_of_ne hline, ih]
        · exact ih
    | _ =>
      have hnone {e : Event} (he : e.notice? = none) : written? l e = none := by
        cases l <;> cases e <;> first | rfl | cases he
      rw [logFrom_other threshold rfl, List.filterMap_cons, hnone rfl]
      exact ih

theorem count_log (events : List Event) :
    (log events).count "INFO row written" = (events.filterMap announced?).length := by
  have hline : "INFO row written" = Level.info.name ++ " " ++ "row written" := by decide
  rw [hline, log, count_row_written, if_pos (Nat.le_refl _)]
  rfl

def tellsProgress (line : String) : Bool := "INFO [".toList.isPrefixOf line.toList

theorem tellsProgress_iff (n : Notice) :
    tellsProgress n.logLine = true ↔ n.level = .info ∧ n.text.toList.head? = some '[' := by
  rw [tellsProgress, List.isPrefixOf_iff_prefix, Notice.logLine, String.toList_append,
    String.toList_append]
  generalize n.level = level, n.text.toList = text
  cases level <;> cases text <;> simp [Level.name, eq_comm]

theorem tellsProgress_logLine (n : Notice) :
    tellsProgress n.logLine = (shown? (.noticed n)).isSome := by
  rw [Bool.eq_iff_iff, tellsProgress_iff]
  constructor
  · rintro ⟨hlevel, hhead⟩
    cases n with
    | progress c p => rfl
    | queueValidated q => exact absurd hhead (by decide : "queue validated".toList.head? ≠ some '[')
    | sweepStarted => exact absurd hhead (by decide : "starting sweep".toList.head? ≠ some '[')
    | delayCalibrated d k =>
      exact absurd hhead (by decide : "calibrated delay".toList.head? ≠ some '[')
    | rowWritten r => exact absurd hhead (by decide : "row written".toList.head? ≠ some '[')
    | sweepFinished => exact absurd hhead (by decide : "sweep finished".toList.head? ≠ some '[')
    | _ => cases hlevel
  · intro hshown
    cases n with
    | progress c p => exact ⟨rfl, Notice.head?_text_progress c p⟩
    | _ => cases hshown

theorem filter_tellsProgress (events : List Event) :
    (log events).filter tellsProgress =
      (events.filterMap shown?).map fun x => (Notice.progress x.1 x.2).logLine := by
  induction events with
  | nil => rfl
  | cons e events ih =>
    cases e with
    | noticed n =>
      have htells := tellsProgress_logLine n
      rw [log, logFrom_noticed, List.filterMap_cons]
      cases hs : shown? (.noticed n) with
      | some x =>
        rw [hs] at htells
        cases n with
        | progress c p =>
          cases hs
          have hlevel : Level.info.rank ≤ (Notice.progress c p).level.rank := Nat.le_refl _
          rw [if_pos hlevel, List.filter_cons_of_pos htells, List.map_cons, ← ih, log]
        | _ => cases hs
      | none =>
        rw [hs] at htells
        split
        · rw [List.filter_cons_of_neg (by simp [htells])]
          exact ih
        · exact ih
    | _ => exact ih

end Event

end CalibratedSweep
