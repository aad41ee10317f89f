import ExitGesture.Proofs.Touch

/-!
# Why attempts are given up

An attempt that ends has fired, or it is given up for a reason.  The reason is logged as it is kept,
so the one that is kept is the last one logged.
-/

namespace ExitGesture

/-! ### The reason that is kept -/

/-- The reason that a recognizer keeps is among what has just been signalled. -/
def Recognizer.Records (r : Recognizer) (signals : List Signal) : Prop :=
  ∃ why, r.lastAbandon = some why ∧ Signal.log (.abandoned why) ∈ signals

namespace Recognizer

variable {r : Recognizer} {m : Moment} {h : Host} {t : Touch}

theorem Records.of_subset {some all : List Signal} (records : r.Records some)
    (within : some ⊆ all) : r.Records all := by
  obtain ⟨why, kept, logged⟩ := records
  exact ⟨why, kept, within logged⟩

theorem records_abandon (begun : r.stage ≠ .idle) (reason : AbandonReason) :
    (r.abandon reason).state.Records (r.abandon reason).signals := by
  refine ⟨reason, ?_, ?_⟩
  · simp [begun]
  · simp [abandon, begun]

theorem kept_or_records_abandon (reason : AbandonReason) :
    (r.abandon reason).state.lastAbandon = r.lastAbandon ∨
      (r.abandon reason).state.Records (r.abandon reason).signals := by
  by_cases idle : r.stage = .idle
  · exact Or.inl (by simp [idle])
  · exact Or.inr (records_abandon idle reason)

theorem signals_advance_of_abandon {step : Tracker × Verdict} {reason : AbandonReason} (now : Time)
    (ends : Bool) (abandoned : step.2 = .abandon reason) :
    ({ r with tracker := step.1 }.abandon reason).signals ⊆ (r.advance step now ends).signals := by
  obtain ⟨τ, w⟩ := step
  obtain rfl : w = .abandon reason := abandoned
  exact List.subset_append_left _ _

theorem kept_or_records_advance (step : Tracker × Verdict) (now : Time) (ends : Bool) :
    (r.advance step now ends).state.lastAbandon = r.lastAbandon ∨
      (r.advance step now ends).state.Records (r.advance step now ends).signals := by
  rcases step.2.cases_lasts with lasts | complete | ⟨reason, abandoned⟩
  · exact Or.inl (by rw [state_advance_of_lasts r step now ends lasts])
  · exact Or.inl (by rw [state_advance_of_complete r step now ends complete])
  · rw [state_advance_of_abandon r step now ends abandoned]
    exact (kept_or_records_abandon reason).imp_right fun records =>
      records.of_subset (signals_advance_of_abandon now ends abandoned)

/-- A new stream gives up what the old one left, and says so. -/
theorem readied_cases (r : Recognizer) (t : Touch) :
    r.readied t = r ∨
      t.kind = .down ∧ (r.readied t).stage = .idle ∧ (r.readied t).Records (r.opening t) := by
  by_cases restarts : t.kind = .down ∧ r.tracked ≠ []
  · have begun : r.stage ≠ .idle := fun idle => restarts.2 (tracked_of_idle idle)
    rw [readied, opening, if_pos restarts, if_pos restarts]
    exact Or.inr ⟨restarts.1, stage_abandon _ _, records_abandon begun .streamRestarted⟩
  · exact Or.inl (if_neg restarts)

/-- Two lists of signals are recorded together if the later one keeps the reason of the first, or
replaces it. -/
theorem Records.append {r' : Recognizer} {first later : List Signal} (records : r.Records first)
    (then_kept : r'.lastAbandon = r.lastAbandon ∨ r'.Records later) :
    r'.Records (first ++ later) := by
  rcases then_kept with kept | records'
  · obtain ⟨why, kept_first, logged⟩ := records
    exact ⟨why, kept.trans kept_first, List.mem_append_left _ logged⟩
  · exact records'.of_subset (List.subset_append_right _ _)

/-- What is done with a readied recognizer keeps its reason or replaces it. -/
theorem kept_or_records_readied {r' : Recognizer} {later : List Signal}
    (then_kept : r'.lastAbandon = (r.readied t).lastAbandon ∨ r'.Records later) :
    r'.lastAbandon = r.lastAbandon ∨ r'.Records (r.opening t ++ later) := by
  rcases r.readied_cases t with same | ⟨_, _, restarted⟩
  · rw [same] at then_kept
    exact then_kept.imp_right fun records => records.of_subset (List.subset_append_right _ _)
  · exact Or.inr (restarted.append then_kept)

theorem kept_or_records_touch (r : Recognizer) (h : Host) (t : Touch) :
    (r.touch h t).state.lastAbandon = r.lastAbandon ∨
      (r.touch h t).state.Records (r.touch h t).signals := by
  have course := touch_course r h t
  generalize r.touch h t = o at course ⊢
  cases course with
  | explored => exact Or.inl rfl
  | heldBack => exact Or.inl rfl
  | cancelled => exact kept_or_records_abandon (r := r.counted t) .cancelled
  | crowded _ _ _ _ _ state signals =>
      rw [state, signals]
      refine kept_or_records_readied (r := r.counted t) ?_
      exact (kept_or_records_abandon .extraPointer).imp_right fun records =>
        records.of_subset (List.subset_cons_self _ _)
  | seen _ _ _ _ _ _ state signals =>
      rw [state, signals]
      exact kept_or_records_readied (r := r.counted t) (kept_or_records_advance _ _ _)

/-- A moment keeps the last reason, or replaces it by one that it logs. -/
theorem kept_or_records (r : Recognizer) (m : Moment) :
    (r.after m).lastAbandon = r.lastAbandon ∨ (r.after m).Records (r.serve m).signals := by
  obtain ⟨h, q⟩ := m
  cases q with
  | touch t => exact kept_or_records_touch r h t
  | tick now =>
      show (r.tick h now).state.lastAbandon = _ ∨
        (r.tick h now).state.Records (r.tick h now).signals
      rcases tick_cases r h now with ⟨_, eq⟩ | ⟨_, _, eq⟩
      · exact Or.inl (by rw [eq]; rfl)
      · rw [eq]
        exact kept_or_records_advance _ now false
  | reset => exact kept_or_records_abandon (r := { r with onSurface := [], latched := false }) _
  | reload =>
      left
      show (r.reload h).state.lastAbandon = r.lastAbandon
      obtain ⟨_, eq | ⟨_, c, eq⟩⟩ := reload_cases r h
      · rw [eq]
      · rw [eq]
        rfl

/-- The reason that is kept has been logged. -/
theorem records_run (r : Recognizer) (history : List Moment) :
    (r.run history).lastAbandon = r.lastAbandon ∨ (r.run history).Records (r.signals history) := by
  induction history generalizing r with
  | nil => exact Or.inl rfl
  | cons m rest ih =>
      have later := ih (r.after m)
      rcases r.kept_or_records m with kept | records
      · rw [← kept]
        exact later.imp_right fun records => records.of_subset (List.subset_append_right _ _)
      · exact Or.inr (records.append later)

/-! ### Attempts that end -/

/-- A step of a begun tracker that leaves none begun and does not complete it gives it up. -/
theorem records_of_advance {s : Stimulus} {v : View} (now : Time) (ends : Bool)
    (begun : r.stage ≠ .idle)
    (idle : (r.advance (r.tracker.react v s) now ends).state.stage = .idle)
    (silent : (r.tracker.react v s).2 ≠ .complete) :
    (r.advance (r.tracker.react v s) now ends).state.Records
      (r.advance (r.tracker.react v s) now ends).signals := by
  have begun_after := Tracker.begun_react (v := v) s begun
  rcases (r.tracker.react v s).2.cases_lasts with lasts | complete | ⟨reason, abandoned⟩
  · rw [state_advance_of_lasts _ _ _ _ lasts] at idle
    exact absurd idle begun_after
  · exact absurd complete silent
  · rw [state_advance_of_abandon _ _ _ _ abandoned]
    exact (records_abandon (r := { r with tracker := (r.tracker.react v s).1 }) begun_after
      reason).of_subset (signals_advance_of_abandon now ends abandoned)

theorem records_of_touch_ended (begun : r.stage ≠ .idle) (idle : (r.touch h t).state.stage = .idle)
    (silent : Signal.triggered ∉ (r.touch h t).signals) :
    (r.touch h t).state.Records (r.touch h t).signals := by
  have course := touch_course r h t
  generalize r.touch h t = o at course idle silent ⊢
  cases course with
  | explored => exact absurd idle begun
  | heldBack => exact absurd idle begun
  | cancelled => exact records_abandon (r := r.counted t) begun .cancelled
  | crowded _ _ _ _ _ state signals =>
      rw [state, signals]
      rcases (r.counted t).readied_cases t with same | ⟨_, _, restarted⟩
      · rw [same]
        have records := records_abandon (r := r.counted t) begun .extraPointer
        exact records.of_subset
          (List.subset_append_of_subset_right _ (List.subset_cons_self _ _))
      · refine restarted.append ((kept_or_records_abandon .extraPointer).imp_right ?_)
        exact fun records => records.of_subset (List.subset_cons_self _ _)
  | @seen _ k step _ _ _ _ stepped _ state signals =>
      rw [state] at idle
      rw [signals] at silent
      rw [state, signals]
      rcases (r.counted t).readied_cases t with same | ⟨_, _, restarted⟩
      · rw [same] at stepped idle silent ⊢
        have not_complete : step.2 ≠ .complete := by simpa using silent
        rw [stepped] at idle not_complete ⊢
        have records := records_of_advance (r := r.counted t) (v := r.view h)
          (s := .motion k t.contact) t.time (t.kind = .up) begun idle not_complete
        exact records.of_subset (List.subset_append_right _ _)
      · exact restarted.append (kept_or_records_advance _ _ _)

/-- An attempt that a moment ends without firing is given up for a reason. -/
theorem records_of_ended (begun : r.stage ≠ .idle) (idle : (r.after m).stage = .idle)
    (silent : ¬ r.Fires m) : (r.after m).Records (r.serve m).signals := by
  obtain ⟨h, q⟩ := m
  cases q with
  | touch t => exact records_of_touch_ended begun idle silent
  | tick now =>
      replace idle : (r.tick h now).state.stage = .idle := idle
      replace silent : Signal.triggered ∉ (r.tick h now).signals := silent
      show (r.tick h now).state.Records (r.tick h now).signals
      rcases tick_cases r h now with ⟨_, eq⟩ | ⟨_, _, eq⟩
      · rw [eq] at idle
        exact absurd idle begun
      · rw [eq] at idle silent ⊢
        have not_complete : (r.tracker.tick (r.view h) now).2 ≠ .complete := by
          simpa [Outcome.answering] using silent
        exact records_of_advance (s := .tick now) now false begun idle not_complete
  | reset =>
      exact records_abandon (r := { r with onSurface := [], latched := false }) begun .requested
  | reload =>
      replace idle : (r.reload h).state.stage = .idle := idle
      obtain ⟨_, eq | ⟨idle_before, _⟩⟩ := reload_cases r h
      · rw [eq] at idle
        exact absurd idle begun
      · exact absurd idle_before begun

/-- A trigger ends its attempt and leaves the last reason as it is. -/
theorem after_of_fires (fires : r.Fires m) :
    (r.after m).stage = .idle ∧ (r.after m).lastAbandon = r.lastAbandon := by
  obtain ⟨h, q⟩ := m
  rcases touch_or_tick_of_fires fires with ⟨t, asked, fires⟩ | ⟨now, asked, fires⟩
  · obtain rfl : q = .touch t := asked
    have not_down := not_down_of_fires fires
    show (r.touch h t).state.stage = .idle ∧ (r.touch h t).state.lastAbandon = r.lastAbandon
    obtain ⟨_, _, _, complete, state⟩ := seen_of_fires fires
    rw [state, state_advance_of_complete _ _ _ _ complete, readied_of_not_down not_down]
    exact ⟨Tracker.stage_cleared _, rfl⟩
  · obtain rfl : q = .tick now := asked
    have complete := (complete_of_tick_fires fires).2.2
    show (r.tick h now).state.stage = .idle ∧ (r.tick h now).state.lastAbandon = r.lastAbandon
    rcases tick_cases r h now with ⟨_, eq⟩ | ⟨_, _, eq⟩
    · simp [eq, Outcome.silent] at fires
    · have state : (r.tick h now).state =
          (r.advance (r.tracker.tick (r.view h) now) now false).state := by rw [eq]; rfl
      rw [state, state_advance_of_complete _ _ _ _ complete]
      exact ⟨Tracker.stage_cleared _, rfl⟩

/-! ### New streams -/

theorem reason_of_logged {reason why : AbandonReason}
    (logged : Signal.log (.abandoned why) ∈ (r.abandon reason).signals) : why = reason := by
  unfold abandon at logged
  split at logged
  · simp [Outcome.silent] at logged
  · simpa using logged

theorem verdict_of_logged {step : Tracker × Verdict} {now : Time} {ends : Bool}
    {why : AbandonReason}
    (logged : Signal.log (.abandoned why) ∈ (r.advance step now ends).signals) :
    step.2 = .abandon why := by
  have not_in_stageLog (a b : Stage) : Signal.log (.abandoned why) ∉ stageLog a b now := by
    unfold stageLog
    split <;> simp
  obtain ⟨τ, w⟩ := step
  cases w with
  | abandon reason =>
      rcases List.mem_append.1 logged with abandoned | changed
      · rw [reason_of_logged abandoned]
      · exact absurd changed (not_in_stageLog _ _)
  | proceed consumed => simp [advance, settle, Outcome.silent, not_in_stageLog] at logged
  | restart gap => simp [advance, settle, not_in_stageLog] at logged
  | pulse held => simp [advance, settle, not_in_stageLog] at logged
  | complete => simp [advance, settle, not_in_stageLog] at logged

theorem not_restarted_advance (s : Stimulus) (v : View) (now : Time) (ends : Bool) :
    Signal.log (.abandoned .streamRestarted) ∉
      (r.advance (r.tracker.react v s) now ends).signals := fun logged =>
  Tracker.streamRestarted_not_mem_reasons _
    (Tracker.mem_reasons_of_abandon (verdict_of_logged logged))

theorem restarts_of_mem_opening {entry : Signal} (mem : entry ∈ (r.counted t).opening t) :
    t.kind = .down ∧ r.tracked ≠ [] := by
  unfold opening at mem
  split at mem
  next restarts => exact restarts
  next => cases mem

theorem restarts_of_touch_logged
    (logged : Signal.log (.abandoned .streamRestarted) ∈ (r.touch h t).signals) :
    t.kind = .down ∧ r.tracked ≠ [] := by
  have course := touch_course r h t
  generalize r.touch h t = o at course logged
  cases course with
  | explored => simp [Outcome.silent] at logged
  | heldBack => simp [Outcome.silent] at logged
  | cancelled => cases reason_of_logged logged
  | crowded _ _ _ _ _ _ signals =>
      rw [signals] at logged
      rcases List.mem_append.1 logged with opening | logged
      · exact restarts_of_mem_opening opening
      · rcases List.mem_cons.1 logged with many | logged
        · cases many
        · cases reason_of_logged logged
  | @seen _ k _ _ _ _ _ stepped _ _ signals =>
      rw [signals, stepped] at logged
      rcases List.mem_append.1 logged with opening | logged
      · exact restarts_of_mem_opening opening
      · exact absurd logged (not_restarted_advance (.motion k t.contact) _ _ _)

/-- Only the first landing of a stream gives a tracked attempt up for a new one. -/
theorem restarts_of_logged
    (logged : Signal.log (.abandoned .streamRestarted) ∈ (r.serve m).signals) :
    ∃ t, m.request = .touch t ∧ t.kind = .down ∧ r.tracked ≠ [] := by
  obtain ⟨h, q⟩ := m
  cases q with
  | touch t => exact ⟨t, rfl, restarts_of_touch_logged logged⟩
  | tick now =>
      exfalso
      replace logged : Signal.log (.abandoned .streamRestarted) ∈ (r.tick h now).signals := logged
      rcases tick_cases r h now with ⟨_, eq⟩ | ⟨_, _, eq⟩
      · simp [eq, Outcome.silent] at logged
      · rw [eq] at logged
        exact not_restarted_advance (.tick now) _ _ _ logged
  | reset => cases reason_of_logged logged
  | reload =>
      exfalso
      have course := reload_course r h
      replace logged : Signal.log (.abandoned .streamRestarted) ∈ (r.reload h).signals := logged
      generalize r.reload h = o at course logged
      cases course <;> simp at logged

end Recognizer
end ExitGesture
