import ExitGesture.Proofs.Touch
import Mathlib.Tactic.ByContra

/-!
# The latch of a trigger

A trigger that leaves its stream going latches the recognizer.  From then on it is idle and nobody
hears of it, whatever is asked and whatever becomes of the host, until the latch is released: a new
stream or the end of the old one is heard, or the host asks for a reset.

**Invariant.**  A latched recognizer is idle (`WellFormed.resting`).  A moment that does not release
the latch keeps it closed, so that the invariant speaks of everything up to the release.
-/

namespace ExitGesture

namespace Moment

/-- The latch is released: a new stream or the end of one is heard, or a reset is asked for. -/
def Releases (m : Moment) : Prop :=
  m.request = .reset ∨
    m.host.exploring = false ∧
      ∃ t, m.request = .touch t ∧ (t.kind = .down ∨ t.kind = .up ∨ t.kind = .cancel)

/-- The last pointer of a stream lifts. -/
def LiftsLast (m : Moment) : Prop := ∃ t, m.request = .touch t ∧ t.kind = .up

end Moment

/-- Nobody hears of an outcome: it does not ask the host to hold back, claims no trigger, and
signals nothing but log entries. -/
structure Outcome.Quiet (o : Outcome Recognizer Session.Reply) : Prop where
  not_consumed : o.answer ≠ .consumed true
  not_fired : o.answer ≠ .fired true
  only_logs : ∀ s ∈ o.signals, ∃ entry, s = .log entry

namespace Recognizer

variable {r : Recognizer} {m : Moment}

/-! ### Counting triggers -/

section Count

variable (r) (h : Host)

theorem count_triggered_abandon (reason : AbandonReason) :
    (r.abandon reason).signals.count .triggered = 0 :=
  List.count_eq_zero.2 (triggered_not_mem_abandon r reason)

theorem count_triggered_advance (step : Tracker × Verdict) (now : Time) (ends : Bool) :
    (r.advance step now ends).signals.count .triggered =
      if step.2 = .complete then 1 else 0 := by
  have none_in_stageLog (a b : Stage) : (stageLog a b now).count .triggered = 0 := by
    unfold stageLog
    split <;> simp
  obtain ⟨τ, w⟩ := step
  cases w with
  | proceed consumed => simp [advance, settle, Outcome.silent, none_in_stageLog]
  | restart gap => simp [advance, settle, none_in_stageLog]
  | pulse held => simp [advance, settle, none_in_stageLog]
  | abandon reason =>
      simp [advance, settle, Outcome.answering, none_in_stageLog, count_triggered_abandon]
  | complete => simp [advance, settle, none_in_stageLog]

theorem count_triggered_touch (t : Touch) :
    (r.touch h t).signals.count .triggered =
      if Signal.triggered ∈ (r.touch h t).signals then 1 else 0 := by
  have course := touch_course r h t
  generalize r.touch h t = o at course ⊢
  cases course with
  | explored => simp [Outcome.silent]
  | heldBack => simp [Outcome.silent]
  | cancelled => simp [Outcome.answering, count_triggered_abandon]
  | crowded _ _ _ _ _ _ signals =>
      have none_in_opening := List.count_eq_zero.2 (triggered_not_mem_opening (r.counted t) t)
      simp [signals, none_in_opening, count_triggered_abandon]
  | seen _ _ _ _ _ _ _ signals =>
      have none_in_opening := List.count_eq_zero.2 (triggered_not_mem_opening (r.counted t) t)
      simp [signals, none_in_opening, count_triggered_advance]

/-- A tick says that it fired exactly when it did, counts the trigger, and signals it once. -/
theorem tick_fires (now : Time) :
    ((r.tick h now).answer = true ↔ Signal.triggered ∈ (r.tick h now).signals) ∧
      (r.tick h now).signals.count .triggered =
        (if Signal.triggered ∈ (r.tick h now).signals then 1 else 0) ∧
      (r.tick h now).state.triggers =
        r.triggers + (r.tick h now).signals.count .triggered := by
  rcases tick_cases r h now with ⟨_, eq⟩ | ⟨_, _, eq⟩
  · simp [eq, Outcome.silent]
  · simp [eq, Outcome.answering, count_triggered_advance, triggers_advance]

end Count

theorem count_triggered_serve (r : Recognizer) (m : Moment) :
    (r.serve m).signals.count .triggered = if r.Fires m then 1 else 0 := by
  obtain ⟨h, q⟩ := m
  cases q with
  | touch t => exact count_triggered_touch r h t
  | tick now => exact (tick_fires r h now).2.1
  | reset =>
      have none : ¬ r.Fires ⟨h, .reset⟩ := triggered_not_mem_abandon _ _
      rw [if_neg none]
      exact List.count_eq_zero.2 none
  | reload =>
      obtain ⟨⟨entry, logged⟩, _⟩ := reload_cases r h
      simp [Fires, serve, Outcome.answering, logged]

theorem triggers_after (r : Recognizer) (m : Moment) :
    (r.after m).triggers = r.triggers + (r.serve m).signals.count .triggered := by
  obtain ⟨h, q⟩ := m
  cases q with
  | touch t =>
      show (r.touch h t).state.triggers = r.triggers + (r.touch h t).signals.count .triggered
      rw [count_triggered_touch]
      exact triggers_touch
  | tick now => exact (tick_fires r h now).2.2
  | reset =>
      have none := count_triggered_abandon
        { r with onSurface := [], latched := false } .requested
      simp [after, serve, reset, Outcome.answering, none]
  | reload =>
      obtain ⟨⟨entry, logged⟩, eq | ⟨_, c, eq⟩⟩ := reload_cases r h
      · simp [after, serve, Outcome.answering, logged, eq]
      · simp [after, serve, Outcome.answering, logged, eq, configured]

theorem triggers_run (r : Recognizer) (history : List Moment) :
    (r.run history).triggers = r.triggers + (r.signals history).count .triggered := by
  induction history generalizing r with
  | nil => rfl
  | cons m rest ih =>
      show ((r.after m).run rest).triggers = _
      rw [ih, triggers_after, signals, List.count_append, Nat.add_assoc]

/-! ### While the latch is closed -/

theorem not_fires_moment_of_latched (latched : r.latched = true) (m : Moment) : ¬ r.Fires m := by
  intro fires
  rcases touch_or_tick_of_fires fires with ⟨t, _, fires⟩ | ⟨now, _, fires⟩
  · -- a first landing releases the latch and fires nothing itself
    exact not_fires_of_latched latched (not_down_of_fires fires) fires
  · have opened := (complete_of_tick_fires fires).1
    simp [latched] at opened

/-- A moment that does not release a closed latch leaves it closed and is not heard of. -/
theorem serve_of_latched (latched : r.latched = true) (held : ¬ m.Releases) :
    (r.after m).latched = true ∧ (r.serve m).Quiet := by
  obtain ⟨h, q⟩ := m
  cases q with
  | touch t =>
      show (r.touch h t).state.latched = true ∧ _
      simp only [serve]
      have course := touch_course r h t
      generalize r.touch h t = o at course ⊢
      cases course with
      | explored =>
          refine ⟨latched, ?_⟩
          constructor <;> simp [Outcome.silent, Outcome.answering]
      | heldBack listening =>
          have stays : t.kind.endsStream = false := by
            cases ends : t.kind.endsStream with
            | false => rfl
            | true =>
                refine absurd (Or.inr ⟨listening, t, rfl, Or.inr ?_⟩) held
                simpa [Touch.Kind.endsStream] using ends
          refine ⟨by simp [Outcome.silent, stays], ?_⟩
          constructor <;> simp [Outcome.silent, Outcome.answering]
      | cancelled _ opened => simp [latched] at opened
      | crowded listening opened =>
          exact absurd (Or.inr ⟨listening, t, rfl, Or.inl (opened latched)⟩) held
      | seen listening opened =>
          exact absurd (Or.inr ⟨listening, t, rfl, Or.inl (opened latched)⟩) held
  | tick now =>
      rcases tick_cases r h now with ⟨_, eq⟩ | ⟨opened, _, _⟩
      · refine ⟨by simp [after, serve, eq, Outcome.silent, Outcome.answering, latched], ?_⟩
        constructor <;> simp [serve, eq, Outcome.silent, Outcome.answering]
      · simp [latched] at opened
  | reset => exact absurd (Or.inl rfl) held
  | reload =>
      obtain ⟨⟨entry, logged⟩, states⟩ := reload_cases r h
      have still : (r.reload h).state.latched = true := by
        rcases states with eq | ⟨_, c, eq⟩
        · rw [eq]
          exact latched
        · rw [eq]
          exact latched
      refine ⟨still, ?_⟩
      constructor <;> simp [serve, Outcome.answering, logged]

theorem latched_run (latched : r.latched = true) {later : List Moment}
    (held : ∀ n ∈ later, ¬ n.Releases) : (r.run later).latched = true := by
  induction later generalizing r with
  | nil => exact latched
  | cons n rest ih =>
      have ⟨held_now, held_later⟩ := List.forall_mem_cons.1 held
      exact ih (serve_of_latched latched held_now).1 held_later

/-- Only the lift of a last pointer fires without closing the latch. -/
theorem latched_of_fires_moment (fires : r.Fires m) (stays : ¬ m.LiftsLast) :
    (r.after m).latched = true := by
  rcases touch_or_tick_of_fires fires with ⟨t, asked, fires⟩ | ⟨now, asked, fires⟩
  · obtain ⟨_, k, motion, _⟩ := complete_of_touch_fires fires
    have not_up : t.kind ≠ .up := fun up => stays ⟨t, asked, up⟩
    have not_cancel : t.kind ≠ .cancel := by
      intro cancels
      simp [cancels, Touch.Kind.motion?] at motion
    have latched := latched_of_fires fires (by simp [Touch.Kind.endsStream, not_up, not_cancel])
    simpa [after, serve, asked, Outcome.answering] using latched
  · have latched := latched_of_tick_fires fires
    simpa [after, serve, asked, Outcome.answering] using latched

/-- After a trigger the recognizer rests unheard until its latch is released.  Between two triggers
lies a release, unless the first one ended its stream.  No moment fires twice, a tick answers
whether it fired, and every trigger is counted. -/
theorem silent_until_released (c : Config) (history : List Moment) :
    let r := (ofConfig c).run history
    (∀ m later, r.Fires m → ¬ m.LiftsLast → (∀ n ∈ later, ¬ n.Releases) →
        (r.run (m :: later)).stage = .idle ∧ (r.run (m :: later)).tracked = [] ∧
          ∀ n, ¬ n.Releases → ((r.run (m :: later)).serve n).Quiet) ∧
      (∀ m between n, r.Fires m → (r.run (m :: between)).Fires n →
        m.LiftsLast ∨ ∃ k ∈ between, k.Releases) ∧
      (∀ m, (r.serve m).signals.count .triggered ≤ 1) ∧
      (∀ h now, (r.tick h now).answer = true ↔ r.Fires ⟨h, .tick now⟩) ∧
      r.triggers = ((ofConfig c).signals history).count .triggered := by
  intro r
  have wf : r.WellFormed := (WellFormed.ofConfig c).run history
  refine ⟨?_, ?_, ?_, fun h now => (tick_fires r h now).1, ?_⟩
  · intro m later fires stays held
    have latched : (r.run (m :: later)).latched = true :=
      latched_run (latched_of_fires_moment fires stays) held
    have idle := (wf.run (m :: later)).resting latched
    exact ⟨idle, tracked_of_idle idle, fun n held => (serve_of_latched latched held).2⟩
  · intro m between n fires again
    -- a latch that nothing released would still be closed at the second trigger
    by_contra unreleased
    obtain ⟨stays, held⟩ := not_or.1 unreleased
    have latched : (r.run (m :: between)).latched = true :=
      latched_run (latched_of_fires_moment fires stays) fun k mem releases =>
        held ⟨k, mem, releases⟩
    exact not_fires_moment_of_latched latched n again
  · intro m
    rw [count_triggered_serve]
    split
    · exact Nat.le_refl 1
    · exact Nat.zero_le 1
  · exact (triggers_run (ofConfig c) history).trans (Nat.zero_add _)

/-- A pair held in the corners fires on a tick.  A late move, a reload for another gesture and a
lift that exploration owns leave the recognizer latched, and the move of a held pointer is not
heard of. -/
theorem silent_until_released_corners :
    let host : Host := .phone .oppositeCornersHold
    let landings := host.touches
      [⟨.down, 0, ⟨10, 10⟩, 0⟩, ⟨.pointerDown, 1, ⟨1070, 1910⟩, 50⟩]
    let later : List Moment :=
      [⟨host, .touch ⟨.move, 0, ⟨10, 10⟩, 2600⟩⟩, ⟨.phone .tripleTapDebug, .reload⟩,
        ⟨{ host with exploring := true }, .touch ⟨.up, 0, ⟨10, 10⟩, 2700⟩⟩]
    let r := (ofConfig (.forScreen .oppositeCornersHold 1080 1920)).run landings
    let after := r.run (⟨host, .tick 2550⟩ :: later)
    r.Fires ⟨host, .tick 2550⟩ ∧ (∀ n ∈ later, ¬ n.Releases) ∧
      after.config.gesture = .tripleTapDebug ∧ after.stage = .idle ∧
      (after.serve ⟨host, .touch ⟨.move, 1, ⟨1070, 1910⟩, 6000⟩⟩).Quiet := by
  intro host landings later r after
  have fires : r.Fires ⟨host, .tick 2550⟩ := by decide +kernel
  have stays : ¬ Moment.LiftsLast ⟨host, .tick 2550⟩ := by simp [Moment.LiftsLast]
  have held : ∀ n ∈ later, ¬ n.Releases := by
    simp [later, host, Moment.Releases, Host.phone]
  have rests := (silent_until_released (.forScreen .oppositeCornersHold 1080 1920) landings).1
    ⟨host, .tick 2550⟩ later fires stays held
  refine ⟨fires, held, by decide +kernel, rests.1, rests.2.2 _ ?_⟩
  simp [Moment.Releases]

end Recognizer
end ExitGesture
