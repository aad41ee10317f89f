import ExitGesture.Proofs.Run
import ExitGesture.Proofs.Tracker.Basic

/-!
# What every touch and every tick keeps to

Facts about one touch or one tick of any recognizer, read off its course: what the tracker sees of
it, whether it fires and is consumed, and what becomes of the latch and of the attempt.
-/

namespace ExitGesture

namespace Tracker

variable {v : View} {τ : Tracker} {s : Stimulus}

/-- A stimulus that is no landing leaves an idle tracker as it is. -/
theorem react_of_idle (idle : τ.stage = .idle) (none_lands : s.LandsNone) :
    τ.react v s = (τ, .proceed false) := by
  rw [stage_eq_idle_iff.1 idle]
  cases s with
  | tick now => rcases τ with ⟨⟨⟩, p⟩ | p | p <;> rfl
  | motion k c =>
      cases k with
      | land => exact none_lands.elim
      | move => rcases τ with ⟨⟨⟩, p⟩ | p | p <;> rfl
      | lift => rcases τ with ⟨⟨⟩, p⟩ | p | p <;> rfl

theorem idle_react (idle : τ.stage = .idle) (none_lands : s.LandsNone) :
    (τ.react v s).1.stage = .idle := by
  rw [react_of_idle idle none_lands]
  exact idle

end Tracker

namespace Recognizer

variable {r : Recognizer} {h : Host} {t : Touch}

@[simp] theorem triggers_readied : (r.readied t).triggers = r.triggers := by
  unfold readied
  split <;> simp

theorem readied_of_not_down (other : t.kind ≠ .down) : r.readied t = r := by
  simp [readied, other]

/-- A readied tracker is the old one or a cleared one. -/
theorem tracker_readied :
    (r.readied t).tracker = r.tracker ∨ (r.readied t).tracker.stage = .idle := by
  unfold readied
  split
  · exact Or.inr (stage_abandon r .streamRestarted)
  · exact Or.inl rfl

theorem triggers_advance (step : Tracker × Verdict) (now : Time) (ends : Bool) :
    (r.advance step now ends).state.triggers =
      r.triggers + if step.2 = .complete then 1 else 0 := by
  rcases step.2.cases_lasts with lasts | complete | ⟨reason, abandoned⟩
  · have going : step.2 ≠ .complete := by
      intro complete
      simp [complete, Verdict.lasts] at lasts
    simp [state_advance_of_lasts r step now ends lasts, going]
  · simp [state_advance_of_complete r step now ends complete, complete]
  · simp [state_advance_of_abandon r step now ends abandoned, abandoned]

/-- An attempt outlives a step only by a verdict that lasts. -/
theorem lasts_of_stage_advance {step : Tracker × Verdict} {now : Time} {ends : Bool}
    (begun : (r.advance step now ends).state.stage ≠ .idle) : step.2.lasts = true := by
  rcases step.2.cases_lasts with lasts | complete | ⟨reason, abandoned⟩
  · exact lasts
  · rw [state_advance_of_complete r step now ends complete] at begun
    exact absurd (Tracker.stage_cleared _) begun
  · rw [state_advance_of_abandon r step now ends abandoned] at begun
    exact absurd (stage_abandon _ reason) begun

/-- The first landing of a stream, if it is heard, is seen by the tracker that it readies. -/
theorem touch_down (listening : h.exploring = false) (down : t.kind = .down) :
    let ready := (r.counted t).readied t
    let step := ready.tracker.step (r.view h) .land t.contact
    (r.touch h t).answer = step.2.consumes ∧
      (r.touch h t).state = (ready.advance step t.time false).state ∧
      (r.touch h t).signals =
        (r.counted t).opening t ++ (ready.advance step t.time false).signals := by
  intro ready step
  have course := touch_course r h t
  generalize r.touch h t = o at course ⊢
  cases course with
  | explored exploring => simp [listening] at exploring
  | heldBack _ _ other => exact absurd down other
  | cancelled _ _ cancels => simp [down] at cancels
  | crowded _ _ _ many =>
      -- it is the only pointer, and no gesture takes less than one
      have one : 1 ≤ r.config.gesture.maxPointers := by
        cases r.config.gesture <;> decide
      simp only [Crowded, counted, pointersAfter, down, List.length_singleton] at many
      omega
  | @seen _ k step' _ _ motion _ stepped answer state signals =>
      have lands : k = .land := by
        simpa [down, Touch.Kind.motion?] using motion.symm
      have same : step' = step := by rw [stepped, lands]
      have stays : decide (t.kind = .up) = false := by simp [down]
      rw [same] at answer state signals
      rw [stays] at state signals
      exact ⟨answer, state, signals⟩

/-- Once a stream has begun, a motion that is heard and lands no pointer too many is one step of the
tracker. -/
theorem touch_of_heard {k : Touch.Motion} (listening : h.exploring = false)
    (opened : r.latched = false) (other : t.kind ≠ .down) (motion : t.kind.motion? = some k)
    (few : k = .land → ¬ (r.counted t).Crowded) :
    r.touch h t =
      (r.counted t).advance (r.tracker.step (r.view h) k t.contact) t.time (t.kind = .up) := by
  have seen : r.touch h t = (r.counted t).motion h t k := by
    simp [touch, counted, listening, opened, motion]
  have pass : ¬ (k = .land ∧ (r.counted t).config.gesture.maxPointers <
      (r.counted t).onSurface.length) := fun both => few both.1 both.2
  rw [seen]
  simp only [Recognizer.motion, other, false_and, if_false, Outcome.bind, Outcome.silent, pass,
    List.nil_append]
  rfl

/-- A move that is heard is one step of the tracker. -/
theorem touch_move (listening : h.exploring = false) (opened : r.latched = false)
    (moves : t.kind = .move) :
    r.touch h t = r.advance (r.tracker.step (r.view h) .move t.contact) t.time false := by
  have same : r.counted t = r := by
    rw [counted, ← opened]
    simp [pointersAfter, moves]
  have step := touch_of_heard (t := t) (k := .move) listening opened (by simp [moves])
    (by simp [moves, Touch.Kind.motion?]) Touch.Motion.noConfusion
  rw [same] at step
  simpa [moves, -answer_advance] using step

@[simp] theorem onSurface_touch :
    (r.touch h t).state.onSurface = pointersAfter r.onSurface t := by
  have course := touch_course r h t
  generalize r.touch h t = o at course ⊢
  cases course with
  | explored => rfl
  | heldBack => rfl
  | cancelled => simp [Outcome.answering, counted]
  | crowded _ _ _ _ _ state => simp [state, counted]
  | seen _ _ _ _ _ _ state => simp [state, counted]

@[simp] theorem config_touch : (r.touch h t).state.config = r.config := by
  have course := touch_course r h t
  generalize r.touch h t = o at course ⊢
  cases course with
  | explored => rfl
  | heldBack => rfl
  | cancelled => simp [Outcome.answering, counted]
  | crowded _ _ _ _ _ state => simp [state, counted]
  | seen _ _ _ _ _ _ state => simp [state, counted]

theorem triggers_touch :
    (r.touch h t).state.triggers =
      r.triggers + if Signal.triggered ∈ (r.touch h t).signals then 1 else 0 := by
  have course := touch_course r h t
  generalize r.touch h t = o at course ⊢
  cases course with
  | explored => simp [Outcome.silent]
  | heldBack => simp [Outcome.silent, counted]
  | cancelled => simp [Outcome.answering, counted]
  | crowded _ _ _ _ _ state signals => simp [state, signals, counted]
  | seen _ _ _ _ _ _ state signals =>
      rw [state, triggers_advance, triggers_readied]
      simp [signals, counted]

/-- A touch fires only if the tracker sees it and is complete. -/
theorem seen_of_fires (fires : Signal.triggered ∈ (r.touch h t).signals) :
    h.exploring = false ∧ ∃ k, t.kind.motion? = some k ∧
      let step := ((r.counted t).readied t).tracker.react (r.view h) (.motion k t.contact)
      step.2 = .complete ∧ (r.touch h t).state =
        (((r.counted t).readied t).advance step t.time (t.kind = .up)).state := by
  have course := touch_course r h t
  generalize r.touch h t = o at course fires ⊢
  cases course with
  | explored => simp [Outcome.silent] at fires
  | heldBack => simp [Outcome.silent] at fires
  | cancelled => simp [Outcome.answering] at fires
  | crowded _ _ _ _ _ _ signals => simp [signals] at fires
  | @seen _ k step listening _ motion _ stepped _ state signals =>
      have complete : step.2 = .complete := by simpa [signals] using fires
      rw [stepped] at complete state
      exact ⟨listening, k, motion, complete, state⟩

/-- A touch fires by a motion that completes the attempt, which a new stream would have given up. -/
theorem complete_of_touch_fires (fires : Signal.triggered ∈ (r.touch h t).signals) :
    h.exploring = false ∧ ∃ k, t.kind.motion? = some k ∧
      (r.tracker.react (r.view h) (.motion k t.contact)).2 = .complete := by
  obtain ⟨listening, k, motion, complete, _⟩ := seen_of_fires fires
  rcases (r.counted t).tracker_readied (t := t) with same | idle
  · rw [same] at complete
    exact ⟨listening, k, motion, complete⟩
  · exact absurd idle (Tracker.begun_of_complete complete).1

theorem begun_of_fires (fires : Signal.triggered ∈ (r.touch h t).signals) :
    h.exploring = false ∧ r.stage ≠ .idle ∧ t.kind.isDown = false := by
  obtain ⟨listening, k, motion, complete⟩ := complete_of_touch_fires fires
  obtain ⟨begun, none_lands⟩ := Tracker.begun_of_complete complete
  have no_landing : k ≠ .land := Stimulus.landsNone_motion_iff.1 none_lands
  exact ⟨listening, begun, by simp [Touch.Kind.isDown, motion, no_landing]⟩

theorem not_down_of_fires (fires : Signal.triggered ∈ (r.touch h t).signals) : t.kind ≠ .down := by
  intro down
  have lands : t.kind.isDown = true := Touch.Kind.isDown_iff.2 (Or.inl down)
  simp [(begun_of_fires fires).2.2] at lands

/-! ### The latch -/

theorem not_fires_of_latched (latched : r.latched = true) (other : t.kind ≠ .down) :
    Signal.triggered ∉ (r.touch h t).signals := by
  have course := touch_course r h t
  generalize r.touch h t = o at course ⊢
  cases course with
  | explored => simp [Outcome.silent]
  | heldBack => simp [Outcome.silent]
  | cancelled => simp [Outcome.answering]
  | crowded _ opened => exact absurd (opened latched) other
  | seen _ opened => exact absurd (opened latched) other

theorem latched_of_latched (latched : r.latched = true) (other : t.kind ≠ .down)
    (stays : t.kind.endsStream = false) : (r.touch h t).state.latched = true := by
  have course := touch_course r h t
  generalize r.touch h t = o at course ⊢
  cases course with
  | explored => exact latched
  | heldBack => simp [Outcome.silent, stays]
  | cancelled _ opened => simp [latched] at opened
  | crowded _ opened => exact absurd (opened latched) other
  | seen _ opened => exact absurd (opened latched) other

theorem latched_of_fires (fires : Signal.triggered ∈ (r.touch h t).signals)
    (stays : t.kind.endsStream = false) : (r.touch h t).state.latched = true := by
  have not_up : t.kind ≠ .up := by
    intro up
    simp [up, Touch.Kind.endsStream] at stays
  obtain ⟨_, _, _, complete, state⟩ := seen_of_fires fires
  rw [state, state_advance_of_complete _ _ _ _ complete]
  simp [not_up]

theorem latched_of_tick_fires {now : Time} (fires : Signal.triggered ∈ (r.tick h now).signals) :
    (r.tick h now).state.latched = true := by
  have complete := (complete_of_tick_fires fires).2.2
  rcases tick_cases r h now with ⟨_, eq⟩ | ⟨_, _, eq⟩
  · simp [eq, Outcome.silent] at fires
  · simp [eq, Outcome.answering, state_advance_of_complete _ _ _ _ complete]

/-- The end of a stream that is heard opens the latch. -/
theorem opened_of_endsStream (listening : h.exploring = false)
    (ends : t.kind.endsStream = true) : (r.touch h t).state.latched = false := by
  have not_landing : t.kind.motion? ≠ some .land := by
    cases kind : t.kind <;> simp [kind, Touch.Kind.endsStream, Touch.Kind.motion?] at ends ⊢
  have course := touch_course r h t
  generalize r.touch h t = o at course ⊢
  cases course with
  | explored exploring => simp [listening] at exploring
  | heldBack => simp [Outcome.silent, ends]
  | cancelled => simp [Outcome.answering, counted]
  | crowded _ _ lands => exact absurd lands not_landing
  | @seen _ k step _ _ motion _ _ _ state =>
      have not_cancel : t.kind ≠ .cancel := by
        intro cancels
        simp [cancels, Touch.Kind.motion?] at motion
      have up : t.kind = .up := by simpa [Touch.Kind.endsStream, not_cancel] using ends
      rw [state]
      rcases step.2.cases_lasts with lasts | complete | ⟨reason, abandoned⟩
      · rw [state_advance_of_lasts _ _ _ _ lasts]
        exact latched_readied _ _
      · simp [state_advance_of_complete _ _ _ _ complete, up]
      · rw [state_advance_of_abandon _ _ _ _ abandoned]
        simp [counted]

/-! ### What the host sees -/

theorem engaged_of_answer (consumed : (r.touch h t).answer = true) :
    Signal.triggered ∈ (r.touch h t).signals ∨ (r.touch h t).state.stage = .active ∨
      (r.touch h t).state.awaiting = some .edge := by
  have course := touch_course r h t
  generalize r.touch h t = o at course consumed ⊢
  cases course with
  | explored => simp [Outcome.silent] at consumed
  | heldBack => simp [Outcome.silent] at consumed
  | cancelled => simp [Outcome.answering] at consumed
  | crowded _ _ _ _ answer => simp [answer] at consumed
  | @seen _ k step _ _ _ _ stepped answer state signals =>
      rw [answer] at consumed
      by_cases complete : step.2 = .complete
      · exact Or.inl (by simp [signals, complete])
      · right
        have lasts : step.2.lasts = true := by
          rcases step.2.cases_lasts with lasts | complete' | ⟨reason, abandoned⟩
          · exact lasts
          · exact absurd complete' complete
          · simp [abandoned, Verdict.consumes] at consumed
        rw [stepped] at consumed complete
        have engaged :=
          (Tracker.engaged_of_consumes (s := .motion k t.contact) consumed).resolve_left complete
        rw [state, state_advance_of_lasts _ _ _ _ lasts, stepped]
        exact engaged

/-- A cancel that is heard leaves a well-formed recognizer idle. -/
theorem idle_of_cancel (wf : r.WellFormed) (listening : h.exploring = false)
    (cancels : t.kind = .cancel) :
    (r.touch h t).answer = false ∧ (r.touch h t).state.stage = .idle := by
  have course := touch_course r h t
  generalize r.touch h t = o at course ⊢
  cases course with
  | explored exploring => simp [listening] at exploring
  | heldBack _ latched => exact ⟨rfl, wf.resting latched⟩
  | cancelled => exact ⟨rfl, stage_abandon _ _⟩
  | crowded _ _ lands => simp [cancels, Touch.Kind.motion?] at lands
  | seen _ _ motion => simp [cancels, Touch.Kind.motion?] at motion

/-! ### The pointers on the surface -/

theorem few_of_landed (wf : r.WellFormed) (listening : h.exploring = false)
    (lands : t.kind.isDown = true) (begun : (r.touch h t).state.stage ≠ .idle) :
    ¬ (r.touch h t).state.Crowded := by
  have landing : t.kind.motion? = some .land := by simpa [Touch.Kind.isDown] using lands
  have same : (r.touch h t).state.Crowded ↔ (r.counted t).Crowded := by
    simp [Crowded, counted]
  rw [same]
  have course := touch_course r h t
  generalize r.touch h t = o at course begun
  cases course with
  | explored exploring => simp [listening] at exploring
  | heldBack _ latched => exact absurd (wf.resting latched) begun
  | cancelled => exact absurd (stage_abandon _ _) begun
  | crowded _ _ _ _ _ state =>
      rw [state] at begun
      exact absurd (stage_abandon _ _) begun
  | seen _ _ motion few =>
      rw [landing, Option.some.injEq] at motion
      exact few motion.symm

theorem begun_of_not_landed (other : t.kind.isDown = false)
    (begun : (r.touch h t).state.stage ≠ .idle) : r.stage ≠ .idle := by
  intro idle
  apply begun
  have course := touch_course r h t
  generalize r.touch h t = o at course begun ⊢
  cases course with
  | explored => exact idle
  | heldBack => exact idle
  | cancelled => exact stage_abandon _ _
  | crowded _ _ lands => simp [Touch.Kind.isDown, lands] at other
  | @seen _ k step _ _ motion _ stepped _ state =>
      have not_down : t.kind ≠ .down := by
        intro down
        simp [down, Touch.Kind.isDown, Touch.Kind.motion?] at other
      have no_landing : k ≠ .land := by
        rintro rfl
        simp [Touch.Kind.isDown, motion] at other
      have none_lands : (Stimulus.motion k t.contact).LandsNone :=
        Stimulus.landsNone_motion_iff.2 no_landing
      rw [readied_of_not_down not_down] at stepped state
      have idle_after := Tracker.idle_react (v := r.view h) (τ := r.tracker) idle none_lands
      rw [state] at begun
      have lasts := lasts_of_stage_advance begun
      rw [state, state_advance_of_lasts _ _ _ _ lasts, stepped]
      exact idle_after

/-! ### Ticks -/

section Tick

variable {now : Time}

@[simp] theorem config_tick : (r.tick h now).state.config = r.config := by
  rcases tick_cases r h now with ⟨_, eq⟩ | ⟨_, _, eq⟩
  · rw [eq]
    rfl
  · simp [eq, Outcome.answering]

@[simp] theorem onSurface_tick : (r.tick h now).state.onSurface = r.onSurface := by
  rcases tick_cases r h now with ⟨_, eq⟩ | ⟨_, _, eq⟩
  · rw [eq]
    rfl
  · simp [eq, Outcome.answering]

theorem begun_of_tick (begun : (r.tick h now).state.stage ≠ .idle) : r.stage ≠ .idle := by
  intro idle
  apply begun
  rcases tick_cases r h now with ⟨_, eq⟩ | ⟨_, _, eq⟩
  · rw [eq]
    exact idle
  · rw [eq] at begun ⊢
    replace begun : (r.advance (r.tracker.tick (r.view h) now) now false).state.stage ≠ .idle :=
      begun
    show (r.advance (r.tracker.tick (r.view h) now) now false).state.stage = .idle
    rw [state_advance_of_lasts _ _ _ _ (lasts_of_stage_advance begun)]
    exact Tracker.idle_react (s := .tick now) idle trivial

end Tick

end Recognizer
end ExitGesture
