import ExitGesture.Proofs.History
import ExitGesture.Proofs.Latch
import ExitGesture.Proofs.Restart
import ExitGesture.Proofs.Tracker.Timer

/-!
# Attempts that go well

What is needed to follow an attempt forwards, moment by moment, from the landing that begins it to
the trigger that ends it.

**Following.**  While a recognizer listens and its latch is open, a moment of the same stream does
to it what its stimulus does to its tracker.

**Holds.**  All hold gestures end alike.  Once a hold is active, ticks and moves that keep it steady
reach its timer, and the timer completes it by the first of them that is due.

**Results.**
* `Pursues.settles`, `Pursues.perceive`, `Pursues.given_up`: what a moment does to a recognizer that
  is followed.
* `Holds.completesOnce`: a steady hold is completed by the first moment that is due, and only by it.
-/

namespace ExitGesture

/-! ### Steady moments -/

namespace Moment

/-- Time is seen to pass, or a pointer to move as `P` says. -/
def Steady (P : Contact → Prop) (m : Moment) : Prop := ∃ s, m.stimulus? = some s ∧ s.Steady P

instance {P : Contact → Prop} [DecidablePred P] : DecidablePred (Steady P) := fun m =>
  match heard : m.stimulus? with
  | none => isFalse (by simp [Steady, heard])
  | some s => decidable_of_iff (s.Steady P) (by simp [Steady, heard])

/-- The moment is perceived when a duration since a time is over. -/
def Due (since : Time) (duration : Nat) (m : Moment) : Prop :=
  ∃ s, m.stimulus? = some s ∧ duration ≤ s.time - since

instance (since : Time) (duration : Nat) : DecidablePred (Due since duration) := fun m =>
  match heard : m.stimulus? with
  | none => isFalse (by simp [Due, heard])
  | some s => decidable_of_iff (duration ≤ s.time - since) (by simp [Due, heard])

variable {P : Contact → Prop} {m : Moment} {s : Stimulus}

theorem due_iff_of_heard (heard : m.stimulus? = some s) {since : Time} {duration : Nat} :
    m.Due since duration ↔ duration ≤ s.time - since := by
  constructor
  · rintro ⟨s', heard', long⟩
    rw [heard, Option.some.injEq] at heard'
    rw [heard']
    exact long
  · intro long
    exact ⟨s, heard, long⟩

/-- A tick or a motion is behind every stimulus. -/
theorem request_of_heard (heard : m.stimulus? = some s) :
    m.host.exploring = false ∧
      ((∃ now, m.request = .tick now ∧ s = .tick now) ∨
        ∃ t k, m.request = .touch t ∧ t.kind.motion? = some k ∧ s = .motion k t.contact) := by
  obtain ⟨h, q⟩ := m
  cases exploring : h.exploring with
  | true => simp [stimulus?, exploring] at heard
  | false =>
      refine ⟨rfl, ?_⟩
      cases q with
      | touch t =>
          right
          cases motion : t.kind.motion? with
          | none => simp [stimulus?, exploring, motion] at heard
          | some k =>
              simp only [stimulus?, exploring, motion, Option.map_some, Bool.false_eq_true,
                if_false, Option.some.injEq] at heard
              exact ⟨t, k, rfl, motion, heard.symm⟩
      | tick now =>
          left
          simp only [stimulus?, exploring, Bool.false_eq_true, if_false,
            Option.some.injEq] at heard
          exact ⟨now, rfl, heard.symm⟩
      | reset => simp [stimulus?, exploring] at heard
      | reload => simp [stimulus?, exploring] at heard

theorem time?_of_heard (heard : m.stimulus? = some s) : m.time? = some s.time := by
  rcases (request_of_heard heard).2 with ⟨now, asked, rfl⟩ | ⟨t, k, asked, _, rfl⟩
  · exact time?_eq_some_iff.2 (Or.inr asked)
  · exact time?_eq_some_iff.2 (Or.inl ⟨t, asked, rfl⟩)

/-- A steady moment is a tick or a move. -/
theorem Steady.request (steady : m.Steady P) :
    (∃ now, m.request = .tick now) ∨ ∃ t, m.request = .touch t ∧ t.kind = .move := by
  obtain ⟨s, heard, steady⟩ := steady
  rcases (request_of_heard heard).2 with ⟨now, asked, _⟩ | ⟨t, k, asked, motion, rfl⟩
  · exact Or.inl ⟨now, asked⟩
  · refine Or.inr ⟨t, asked, ?_⟩
    cases k with
    | land => exact steady.elim
    | lift => exact steady.elim
    | move =>
        cases kind : t.kind <;> simp [kind, Touch.Kind.motion?] at motion
        rfl

theorem Steady.kind_of_touch {t : Touch} (steady : m.Steady P) (asked : m.request = .touch t) :
    t.kind = .move := by
  rcases steady.request with ⟨now, asked'⟩ | ⟨t', asked', moves⟩
  · simp [asked] at asked'
  · rw [asked, Request.touch.injEq] at asked'
    rw [asked']
    exact moves

theorem Steady.not_releases (steady : m.Steady P) : ¬ m.Releases := by
  rintro (reset | ⟨_, t, asked, ends⟩)
  · rcases steady.request with ⟨now, asked⟩ | ⟨t, asked, _⟩
    · simp [reset] at asked
    · simp [reset] at asked
  · simp [steady.kind_of_touch asked] at ends

theorem Steady.not_liftsLast (steady : m.Steady P) : ¬ m.LiftsLast := by
  rintro ⟨t, asked, up⟩
  simp [steady.kind_of_touch asked] at up

/-- The moment belongs to the stream that is under way: it starts no other one, and no pointer lands
that is one too many. -/
def Joins (r : Recognizer) (m : Moment) : Prop :=
  ∀ t, m.request = .touch t → t.kind ≠ .down ∧
    (t.kind = .pointerDown → ¬ (r.counted t).Crowded)

theorem Steady.joins (steady : m.Steady P) (r : Recognizer) : m.Joins r := by
  intro t asked
  simp [steady.kind_of_touch asked]

/-- What is heard and lands no pointer belongs to the stream that is under way. -/
theorem joins_of_landsNone (heard : m.stimulus? = some s) (none_lands : s.LandsNone)
    (r : Recognizer) : m.Joins r := by
  intro t asked
  rcases (request_of_heard heard).2 with ⟨now, asked', _⟩ | ⟨t', k, asked', motion, rfl⟩
  · simp [asked] at asked'
  · obtain rfl : t = t' := Request.touch.inj (asked.symm.trans asked')
    have no_landing := Stimulus.landsNone_motion_iff.1 none_lands
    cases kind : t.kind <;> simp [kind, Touch.Kind.motion?, eq_comm, no_landing] at motion ⊢

/-- A touch is the first landing of a stream, leaves no attempt, or is a motion that belongs to the
stream that is under way. -/
theorem joins_cases (r : Recognizer) (h : Host) (t : Touch) :
    t.kind = .down ∨ (t.kind = .cancel ∨ t.kind = .pointerDown ∧ (r.counted t).Crowded) ∨
      ∃ k, t.kind.motion? = some k ∧ Joins r ⟨h, .touch t⟩ := by
  by_cases down : t.kind = .down
  · exact Or.inl down
  · refine Or.inr (or_iff_not_imp_left.2 fun goes_on => ?_)
    obtain ⟨not_cancel, few⟩ := not_or.1 goes_on
    have moves := mt Touch.Kind.motion?_eq_none_iff.1 not_cancel
    obtain ⟨k, motion⟩ := Option.ne_none_iff_exists'.1 moves
    refine ⟨k, motion, ?_⟩
    rintro _ ⟨⟩
    exact ⟨down, fun further many => few ⟨further, many⟩⟩

end Moment

/-- Where a verdict leaves the tracker that has come to it. -/
def Tracker.settled (step : Tracker × Verdict) : Tracker :=
  if step.2.lasts then step.1 else step.1.cleared

theorem Tracker.settled_of_lasts {step : Tracker × Verdict} (lasts : step.2.lasts = true) :
    settled step = step.1 :=
  if_pos lasts

namespace Recognizer

/-! ### Following an attempt -/

/-- A recognizer that works from a configuration has come to a tracker's state, and its latch is
open. -/
structure Pursues (r : Recognizer) (c : Config) (τ : Tracker) : Prop where
  wellFormed : r.WellFormed
  config : r.config = c
  opened : r.latched = false
  tracker : r.tracker = τ

theorem settled_advance {r : Recognizer} {step : Tracker × Verdict} (now : Time) (ends : Bool)
    (silent : step.2 ≠ .complete) :
    (r.advance step now ends).state.tracker = Tracker.settled step ∧
      (r.advance step now ends).state.latched = r.latched := by
  rcases step.2.cases_lasts with lasts | complete | ⟨reason, abandoned⟩
  · rw [state_advance_of_lasts r step now ends lasts, Tracker.settled_of_lasts lasts]
    exact ⟨rfl, rfl⟩
  · exact absurd complete silent
  · rw [state_advance_of_abandon r step now ends abandoned, state_abandon]
    exact ⟨by simp [Tracker.settled, abandoned, Verdict.lasts], rfl⟩

/-- The first landing of a stream that is heard moves a tracker that it has readied, and what it
begins can be followed, whatever was before. -/
theorem pursues_down {r : Recognizer} {h : Host} {t : Touch} {τ : Tracker} {consumed : Bool}
    (wf : r.WellFormed) (listening : h.exploring = false) (down : t.kind = .down)
    (steps : ((r.counted t).readied t).tracker.step (h.view r.config) .land t.contact =
      (τ, .proceed consumed)) :
    ¬ r.Fires ⟨h, .touch t⟩ ∧ (r.after ⟨h, .touch t⟩).onSurface = [t.pointer] ∧
      (r.after ⟨h, .touch t⟩).Pursues r.config τ := by
  obtain ⟨_, state, signals⟩ := touch_down (r := r) (t := t) listening down
  rw [wf.view, steps] at state signals
  rw [state_advance_of_lasts _ _ _ _ rfl] at state
  have surface : (r.touch h t).state.onSurface = [t.pointer] := by
    simp [pointersAfter, down]
  refine ⟨?_, surface, wf.touch h t, config_touch, ?_, ?_⟩
  · show Signal.triggered ∉ (r.touch h t).signals
    simp [signals]
  · show (r.touch h t).state.latched = false
    rw [state]
    exact latched_readied _ _
  · show (r.touch h t).state.tracker = τ
    rw [state]

/-- The first landing of a stream that is heard begins an attempt at a hold that can be followed. -/
theorem pursues_landed {r : Recognizer} {h : Host} {t : Touch} (wf : r.WellFormed)
    (holds : r.config.gesture ≠ .tripleTapDebug) (listening : h.exploring = false)
    (down : t.kind = .down) :
    (r.after ⟨h, .touch t⟩).onSurface = [t.pointer] ∧
      (r.after ⟨h, .touch t⟩).Pursues r.config (.landed t.contact r.config.gesture) := by
  have steps : ((r.counted t).readied t).tracker.step (h.view r.config) .land t.contact =
      (.landed t.contact r.config.gesture, .proceed false) := by
    rw [readied_of_down wf (clears_of_holds wf holds) down]
    exact Tracker.land_ofGesture _ _ _
  exact (pursues_down wf listening down steps).2

namespace Pursues

variable {r : Recognizer} {c : Config} {τ τ' : Tracker} {m : Moment} {s : Stimulus}

/-- A touch of the same stream is one step of the tracker. -/
theorem seen_touch {h : Host} {t : Touch} {k : Touch.Motion} (pursues : r.Pursues c τ)
    (listening : h.exploring = false) (motion : t.kind.motion? = some k)
    (joins : Moment.Joins r ⟨h, .touch t⟩) :
    let step := τ.step (h.view c) k t.contact
    (r.touch h t).answer = step.2.consumes ∧
      (r.touch h t).state = ((r.counted t).advance step t.time (t.kind = .up)).state ∧
      (Signal.triggered ∈ (r.touch h t).signals ↔ step.2 = .complete) := by
  intro step
  obtain ⟨other, few⟩ := joins t rfl
  have course := touch_course r h t
  generalize r.touch h t = o at course ⊢
  cases course with
  | explored exploring => simp [listening] at exploring
  | heldBack _ latched => simp [pursues.opened] at latched
  | cancelled _ _ cancels => simp [cancels, Touch.Kind.motion?] at motion
  | crowded _ _ lands many =>
      -- a landing of the same stream is of a further pointer
      have further : t.kind = .pointerDown :=
        (Touch.Kind.isDown_iff.1 (by simp [Touch.Kind.isDown, lands])).resolve_left other
      exact absurd many (few further)
  | @seen _ k' step' _ _ motion' _ stepped answer state signals =>
      have same : k' = k := by simpa [motion] using motion'.symm
      rw [readied_of_not_down other] at stepped state signals
      have step_eq : step' = step := by
        rw [stepped, same, pursues.wellFormed.view, pursues.config]
        exact congrArg (Tracker.step _ · _ _) pursues.tracker
      rw [step_eq] at answer state signals
      exact ⟨answer, state, by simp [signals]⟩

/-- A tick is one step of the tracker. -/
theorem seen_tick {h : Host} (now : Time) (pursues : r.Pursues c τ)
    (listening : h.exploring = false) :
    (r.tick h now).state = (r.advance (τ.tick (h.view c) now) now false).state ∧
      (Signal.triggered ∈ (r.tick h now).signals ↔ (τ.tick (h.view c) now).2 = .complete) := by
  rcases tick_cases r h now with ⟨latched | exploring, _⟩ | ⟨_, _, eq⟩
  · simp [pursues.opened] at latched
  · simp [listening] at exploring
  · rw [pursues.wellFormed.view, pursues.config, pursues.tracker] at eq
    rw [eq]
    refine ⟨rfl, ?_⟩
    simp [Outcome.answering]

/-- A step that does not fire leaves the tracker settled. -/
theorem settled_touch {h : Host} {t : Touch} {k : Touch.Motion} (pursues : r.Pursues c τ)
    (listening : h.exploring = false) (motion : t.kind.motion? = some k)
    (joins : Moment.Joins r ⟨h, .touch t⟩)
    (silent : (τ.step (h.view c) k t.contact).2 ≠ .complete) :
    (r.touch h t).state.Pursues c (Tracker.settled (τ.step (h.view c) k t.contact)) := by
  have state := (pursues.seen_touch listening motion joins).2.1
  obtain ⟨tracker, latched⟩ :=
    settled_advance (r := r.counted t) t.time (decide (t.kind = .up)) silent
  rw [← state] at tracker latched
  exact ⟨pursues.wellFormed.touch h t, config_touch.trans pursues.config, latched, tracker⟩

theorem settled_tick {h : Host} {now : Time} (pursues : r.Pursues c τ)
    (listening : h.exploring = false) (silent : (τ.tick (h.view c) now).2 ≠ .complete) :
    (r.tick h now).state.Pursues c (Tracker.settled (τ.tick (h.view c) now)) := by
  have state := (pursues.seen_tick now listening).1
  obtain ⟨tracker, latched⟩ := settled_advance (r := r) now false silent
  rw [← state] at tracker latched
  exact ⟨pursues.wellFormed.tick h now, config_tick.trans pursues.config,
    latched.trans pursues.opened, tracker⟩

/-- A moment of the same stream that does not fire leaves the tracker settled. -/
theorem settles (pursues : r.Pursues c τ) (heard : m.stimulus? = some s) (joins : m.Joins r)
    (silent : (τ.react (m.host.view c) s).2 ≠ .complete) :
    (r.after m).Pursues c (Tracker.settled (τ.react (m.host.view c) s)) := by
  obtain ⟨listening, asks⟩ := Moment.request_of_heard heard
  obtain ⟨h, q⟩ := m
  rcases asks with ⟨now, asked, rfl⟩ | ⟨t, k, asked, motion, rfl⟩
  · obtain rfl : q = .tick now := asked
    exact pursues.settled_tick listening silent
  · obtain rfl : q = .touch t := asked
    exact pursues.settled_touch listening motion joins silent

/-- A moment of the same stream fires if its stimulus completes the attempt, takes the attempt to
where its stimulus takes the tracker if it lasts, and is consumed as the verdict says. -/
theorem perceive (pursues : r.Pursues c τ) (heard : m.stimulus? = some s) (joins : m.Joins r) :
    (r.Fires m ↔ (τ.react (m.host.view c) s).2 = .complete) ∧
      ((τ.react (m.host.view c) s).2.lasts = true →
        (r.after m).Pursues c (τ.react (m.host.view c) s).1) ∧
      ∀ t, m.request = .touch t →
        (r.serve m).answer = .consumed (τ.react (m.host.view c) s).2.consumes := by
  refine and_left_comm.1 ⟨?_, ?_⟩
  · intro lasts
    have silent : (τ.react (m.host.view c) s).2 ≠ .complete := by
      intro complete
      simp [complete, Verdict.lasts] at lasts
    rw [← Tracker.settled_of_lasts lasts]
    exact pursues.settles heard joins silent
  · obtain ⟨listening, asks⟩ := Moment.request_of_heard heard
    obtain ⟨h, q⟩ := m
    rcases asks with ⟨now, asked, rfl⟩ | ⟨t, k, asked, motion, rfl⟩
    · obtain rfl : q = .tick now := asked
      exact ⟨(pursues.seen_tick now listening).2, fun t asked => by cases asked⟩
    · obtain rfl : q = .touch t := asked
      obtain ⟨answer, _, fires⟩ := pursues.seen_touch listening motion joins
      exact ⟨fires, fun _ _ => congrArg Session.Reply.consumed answer⟩

/-- A cancel, or a pointer that is one too many, leaves the tracker without its attempt. -/
theorem given_up {h : Host} {t : Touch} (pursues : r.Pursues c τ) (listening : h.exploring = false)
    (ends : t.kind = .cancel ∨ t.kind = .pointerDown ∧ (r.counted t).Crowded) :
    ¬ r.Fires ⟨h, .touch t⟩ ∧ (r.after ⟨h, .touch t⟩).Pursues c τ.cleared := by
  have wf := pursues.wellFormed.touch h t
  have config : (r.touch h t).state.config = c := config_touch.trans pursues.config
  have cleared : r.tracker.cleared = τ.cleared := congrArg Tracker.cleared pursues.tracker
  show Signal.triggered ∉ (r.touch h t).signals ∧ (r.touch h t).state.Pursues c τ.cleared
  have course := touch_course r h t
  generalize r.touch h t = o at course wf config ⊢
  cases course with
  | explored exploring => simp [listening] at exploring
  | heldBack _ latched => simp [pursues.opened] at latched
  | cancelled =>
      refine ⟨by simp [Outcome.answering], wf, config, ?_, ?_⟩
      · simp [Outcome.answering, counted]
      · simpa [Outcome.answering, counted] using cleared
  | crowded _ _ lands _ _ state signals =>
      have further : t.kind = .pointerDown := by
        rcases ends with cancels | ⟨further, _⟩
        · simp [cancels, Touch.Kind.motion?] at lands
        · exact further
      have not_down : t.kind ≠ .down := by simp [further]
      rw [readied_of_not_down not_down] at state
      refine ⟨by simp [signals], wf, config, ?_, ?_⟩
      · simp [state, counted]
      · simpa [state, counted] using cleared
  | seen _ _ motion few =>
      exfalso
      rcases ends with cancels | ⟨further, many⟩
      · simp [cancels, Touch.Kind.motion?] at motion
      · refine few ?_ many
        simpa [further, Touch.Kind.motion?] using motion.symm

/-- A moment that a tracker lets pass. -/
theorem proceed {consumed : Bool} (pursues : r.Pursues c τ) (heard : m.stimulus? = some s)
    (joins : m.Joins r) (reacts : τ.react (m.host.view c) s = (τ', .proceed consumed)) :
    ¬ r.Fires m ∧ (r.after m).Pursues c τ' ∧
      ∀ t, m.request = .touch t → (r.serve m).answer = .consumed consumed := by
  obtain ⟨fires, goes_on, answer⟩ := pursues.perceive heard joins
  rw [reacts] at fires goes_on answer
  exact ⟨fun fired => Verdict.noConfusion (fires.1 fired), goes_on rfl, answer⟩

end Pursues

/-! ### Holds -/

/-- From here on the moments of `later` complete a hold once: by the first of them that is due.
Until then the hold is active and every touch is consumed, and so is the one that completes it. -/
structure CompletesOnce (r : Recognizer) (since : Time) (duration : Nat)
    (later : List Moment) : Prop where
  fires_iff : ∀ before m, before ++ [m] <+: later →
    ((r.run before).Fires m ↔ m.Due since duration ∧ ∀ n ∈ before, ¬ n.Due since duration)
  active : ∀ before, before <+: later → (∀ n ∈ before, ¬ n.Due since duration) →
    (r.run before).stage = .active
  consumed : ∀ before m t, before ++ [m] <+: later → (∀ n ∈ before, ¬ n.Due since duration) →
    m.request = .touch t → ((r.run before).serve m).answer = .consumed true

end Recognizer

/-- A tracker that holds: whatever is steady as `P` says reaches its timer and nothing else. -/
structure SteadyHold (c : Config) (P : Contact → Prop) (hold : HoldTimer → Tracker) : Prop where
  active : ∀ timer, (hold timer).stage = .active
  reacts : ∀ (h : Host) (timer : HoldTimer) (s : Stimulus), s.Steady P →
    (hold timer).react (h.view c) s =
      (hold (timer.advance c s.time).1, (timer.advance c s.time).2)

namespace Recognizer

/-- The recognizer has been holding since a time. -/
def Holds (r : Recognizer) (c : Config) (hold : HoldTimer → Tracker) (since : Time) : Prop :=
  ∃ timer : HoldTimer, timer.since = since ∧ r.Pursues c (hold timer)

namespace Holds

variable {r : Recognizer} {c : Config} {P : Contact → Prop} {hold : HoldTimer → Tracker}
  {since : Time} {m : Moment} {before later : List Moment}

theorem stage (holds : r.Holds c hold since) (steady_hold : SteadyHold c P hold) :
    r.stage = .active := by
  obtain ⟨timer, _, pursues⟩ := holds
  rw [Recognizer.stage, pursues.tracker]
  exact steady_hold.active timer

/-- One steady moment. -/
theorem perceive (holds : r.Holds c hold since) (steady_hold : SteadyHold c P hold)
    (steady : m.Steady P) :
    (r.Fires m ↔ m.Due since c.hold.millis) ∧
      (¬ m.Due since c.hold.millis → (r.after m).Holds c hold since) ∧
      ∀ t, m.request = .touch t → (r.serve m).answer = .consumed true := by
  obtain ⟨timer, rfl, pursues⟩ := holds
  obtain ⟨s, heard, steady_s⟩ := id steady
  obtain ⟨fires, goes_on, answer⟩ := pursues.perceive heard (steady.joins r)
  rw [steady_hold.reacts _ _ _ steady_s] at fires goes_on answer
  have due : m.Due timer.since c.hold.millis ↔ (timer.advance c s.time).2 = .complete :=
    (Moment.due_iff_of_heard heard).trans HoldTimer.advance_complete_iff.symm
  refine ⟨fires.trans due.symm, ?_, ?_⟩
  · intro early
    exact ⟨_, HoldTimer.advance_since _ _ _,
      goes_on (HoldTimer.lasts_advance fun complete => early (due.2 complete))⟩
  · intro t asked
    rw [answer t asked, HoldTimer.consumes_advance]

theorem run (holds : r.Holds c hold since) (steady_hold : SteadyHold c P hold)
    (steady : ∀ n ∈ before, n.Steady P) (early : ∀ n ∈ before, ¬ n.Due since c.hold.millis) :
    (r.run before).Holds c hold since := by
  induction before generalizing r with
  | nil => exact holds
  | cons n rest ih =>
      obtain ⟨steady_now, steady_later⟩ := List.forall_mem_cons.1 steady
      obtain ⟨early_now, early_later⟩ := List.forall_mem_cons.1 early
      exact ih ((holds.perceive steady_hold steady_now).2.1 early_now) steady_later early_later

/-- The moment that is due latches the recognizer, and nothing steady opens the latch again. -/
theorem latched_run (holds : r.Holds c hold since) (steady_hold : SteadyHold c P hold)
    (steady : ∀ n ∈ before, n.Steady P) (was_due : ∃ n ∈ before, n.Due since c.hold.millis) :
    (r.run before).latched = true := by
  induction before generalizing r with
  | nil =>
      obtain ⟨n, mem, _⟩ := was_due
      cases mem
  | cons n rest ih =>
      obtain ⟨steady_now, steady_later⟩ := List.forall_mem_cons.1 steady
      obtain ⟨fires, goes_on, _⟩ := holds.perceive steady_hold steady_now
      by_cases due : n.Due since c.hold.millis
      · have latched := latched_of_fires_moment (fires.2 due) steady_now.not_liftsLast
        exact Recognizer.latched_run latched fun k mem => (steady_later k mem).not_releases
      · refine ih (goes_on due) steady_later ?_
        obtain ⟨k, mem, due_k⟩ := was_due
        rcases List.mem_cons.1 mem with rfl | mem
        · exact absurd due_k due
        · exact ⟨k, mem, due_k⟩

/-- A steady hold is completed once. -/
theorem completesOnce (holds : r.Holds c hold since) (steady_hold : SteadyHold c P hold)
    (steady : ∀ n ∈ later, n.Steady P) : r.CompletesOnce since c.hold.millis later := by
  have steady_before {before : List Moment} (within : before <+: later) :
      ∀ n ∈ before, n.Steady P := fun n mem => steady n (within.subset mem)
  constructor
  · intro before m within
    obtain ⟨steady_first, steady_m⟩ := List.forall_mem_append.1 (steady_before within)
    by_cases early : ∀ n ∈ before, ¬ n.Due since c.hold.millis
    · have fires := ((holds.run steady_hold steady_first early).perceive steady_hold
        (steady_m m (List.mem_singleton_self m))).1
      exact fires.trans ⟨fun due => ⟨due, early⟩, And.left⟩
    · -- an earlier moment was due, and the latch that it closed is still closed
      have was_due : ∃ n ∈ before, n.Due since c.hold.millis := by simpa using early
      have latched := holds.latched_run steady_hold steady_first was_due
      have rests := not_fires_moment_of_latched latched m
      exact ⟨fun fires => absurd fires rests, fun both => absurd both.2 early⟩
  · intro before within early
    exact (holds.run steady_hold (steady_before within) early).stage steady_hold
  · intro before m t within early asked
    obtain ⟨steady_first, steady_m⟩ := List.forall_mem_append.1 (steady_before within)
    exact ((holds.run steady_hold steady_first early).perceive steady_hold
      (steady_m m (List.mem_singleton_self m))).2.2 t asked

end Holds
end Recognizer
end ExitGesture
