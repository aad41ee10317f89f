import ExitGesture.Session.Basic

/-!
# What the operations of a recognizer do

Each operation is made from three: giving up an attempt, settling a verdict, and readying the
tracker for a new stream.  Their states, answers and triggers are stated once here, so that nothing
later has to open an operation again.

**Results.**
* `touch_course`: a touch is owned by exploration, held back by the latch, a cancel, one pointer too
  many, or seen by the tracker.
* `tick_cases`, `reload_course`: the same for ticks and reloads.
-/

namespace ExitGesture

namespace Verdict

/-- Whether the attempt outlives the verdict. -/
def lasts : Verdict → Bool
  | .proceed _ | .restart _ | .pulse _ => true
  | .abandon _ | .complete => false

/-- Whether the host is asked not to react. -/
def consumes : Verdict → Bool
  | .proceed consumed => consumed
  | .pulse _ | .complete => true
  | .restart _ | .abandon _ => false

/-- A verdict ends the attempt in one of two ways, or it lasts. -/
theorem cases_lasts (w : Verdict) :
    w.lasts = true ∨ w = .complete ∨ ∃ reason, w = .abandon reason := by
  cases w <;> simp [lasts]

end Verdict

theorem Tracker.stage_eq_idle_iff {τ : Tracker} :
    τ.stage = .idle ↔ τ = τ.cleared := by
  constructor
  · intro idle
    rcases τ with ⟨region, p⟩ | p | p
    · have hp : p = .idle := PairHold.Phase.stage_eq_idle_iff.1 idle
      subst hp
      cases region <;> rfl
    · have hp : p = .idle := EdgeDrag.Phase.stage_eq_idle_iff.1 idle
      subst hp
      rfl
    · have hp : p = .idle := TripleTap.Phase.stage_eq_idle_iff.1 idle
      subst hp
      rfl
  · intro cleared
    rw [cleared]
    exact stage_cleared τ

namespace Recognizer

theorem tracked_of_idle {r : Recognizer} (idle : r.stage = .idle) : r.tracked = [] := by
  have cleared : r.tracker = r.tracker.cleared := Tracker.stage_eq_idle_iff.1 idle
  rw [tracked, cleared]
  exact Tracker.tracked_cleared r.tracker

theorem begun_of_tracked {r : Recognizer} {p : PointerId} (mem : p ∈ r.tracked) :
    r.stage ≠ .idle := by
  intro idle
  simp [tracked_of_idle idle] at mem

/-! ### Giving up -/

section Abandon

variable (r : Recognizer) (reason : AbandonReason)

@[simp] theorem state_abandon :
    (r.abandon reason).state =
      { r with
        tracker := r.tracker.cleared
        lastAbandon := if r.stage = .idle then r.lastAbandon else some reason } := by
  unfold abandon
  split <;> rfl

@[simp] theorem triggered_not_mem_abandon :
    Signal.triggered ∉ (r.abandon reason).signals := by
  unfold abandon
  split <;> simp [Outcome.silent]

end Abandon

/-! ### Settling a verdict -/

section Advance

variable (r : Recognizer) (step : Tracker × Verdict) (now : Time) (ends : Bool)

theorem state_advance_of_lasts (h : step.2.lasts = true) :
    (r.advance step now ends).state = { r with tracker := step.1 } := by
  obtain ⟨τ, w⟩ := step
  cases w with
  | proceed consumed => rfl
  | restart gap => rfl
  | pulse held => rfl
  | abandon reason => cases h
  | complete => cases h

theorem state_advance_of_complete (h : step.2 = .complete) :
    (r.advance step now ends).state =
      { r with
        tracker := step.1.cleared
        latched := !ends
        triggers := r.triggers + 1 } := by
  obtain ⟨τ, w⟩ := step
  subst h
  rfl

theorem state_advance_of_abandon {reason : AbandonReason} (h : step.2 = .abandon reason) :
    (r.advance step now ends).state =
      ({ r with tracker := step.1 }.abandon reason).state := by
  obtain ⟨τ, w⟩ := step
  subst h
  rfl

@[simp] theorem answer_advance :
    (r.advance step now ends).answer = step.2.consumes := by
  obtain ⟨τ, w⟩ := step
  cases w <;> rfl

@[simp] theorem triggered_mem_advance :
    Signal.triggered ∈ (r.advance step now ends).signals ↔ step.2 = .complete := by
  have not_in_stageLog (a b : Stage) : Signal.triggered ∉ stageLog a b now := by
    unfold stageLog
    split <;> simp
  obtain ⟨τ, w⟩ := step
  cases w <;> simp [advance, settle, Outcome.silent, Outcome.answering, not_in_stageLog]

@[simp] theorem config_advance : (r.advance step now ends).state.config = r.config := by
  obtain ⟨τ, w⟩ := step
  cases w <;> simp [advance, settle, Outcome.silent, Outcome.answering]

@[simp] theorem onSurface_advance :
    (r.advance step now ends).state.onSurface = r.onSurface := by
  obtain ⟨τ, w⟩ := step
  cases w <;> simp [advance, settle, Outcome.silent, Outcome.answering]

end Advance

/-! ### Touches -/

/-- The recognizer as a touch finds it, its pointers counted and its latch open. -/
def counted (r : Recognizer) (t : Touch) : Recognizer :=
  { r with onSurface := pointersAfter r.onSurface t, latched := false }

/-- The recognizer ready for a touch: a new stream gives up what the old one left. -/
def readied (r : Recognizer) (t : Touch) : Recognizer :=
  if t.kind = .down ∧ r.tracked ≠ [] then (r.abandon .streamRestarted).state else r

/-- What a touch signals first: a new stream gives up what the old one left. -/
def opening (r : Recognizer) (t : Touch) : List Signal :=
  if t.kind = .down ∧ r.tracked ≠ [] then (r.abandon .streamRestarted).signals else []

/-- More pointers are down than the gesture takes. -/
def Crowded (r : Recognizer) : Prop := r.config.gesture.maxPointers < r.onSurface.length

/-- What becomes of a touch. -/
inductive TouchCourse (r : Recognizer) (h : Host) (t : Touch) : Outcome Recognizer Bool → Prop
  /-- Exploration owns it. -/
  | explored (exploring : h.exploring = true) :
      TouchCourse r h t
        (.silent { r with onSurface := pointersAfter r.onSurface t } false)
  /-- The latch holds it back. -/
  | heldBack (listening : h.exploring = false) (latched : r.latched = true)
      (other : t.kind ≠ .down) :
      TouchCourse r h t (.silent { r.counted t with latched := !t.kind.endsStream } false)
  /-- It cancels the stream. -/
  | cancelled (listening : h.exploring = false) (opened : r.latched = false)
      (cancels : t.kind = .cancel) :
      TouchCourse r h t (((r.counted t).abandon .cancelled).answering false)
  /-- It lands one pointer too many. -/
  | crowded {o : Outcome Recognizer Bool} (listening : h.exploring = false)
      (opened : r.latched = true → t.kind = .down) (lands : t.kind.motion? = some .land)
      (many : (r.counted t).Crowded) (answer : o.answer = false)
      (state : o.state = (((r.counted t).readied t).abandon .extraPointer).state)
      (signals : o.signals =
        (r.counted t).opening t ++ .log (.tooManyPointers (r.counted t).onSurface.length) ::
          (((r.counted t).readied t).abandon .extraPointer).signals) :
      TouchCourse r h t o
  /-- The tracker sees it. -/
  | seen {o : Outcome Recognizer Bool} {k : Touch.Motion} {step : Tracker × Verdict}
      (listening : h.exploring = false) (opened : r.latched = true → t.kind = .down)
      (motion : t.kind.motion? = some k) (few : k = .land → ¬ (r.counted t).Crowded)
      (stepped : step = ((r.counted t).readied t).tracker.step (r.view h) k t.contact)
      (answer : o.answer = step.2.consumes)
      (state : o.state = (((r.counted t).readied t).advance step t.time (t.kind = .up)).state)
      (signals : o.signals =
        (r.counted t).opening t ++
          (((r.counted t).readied t).advance step t.time (t.kind = .up)).signals) :
      TouchCourse r h t o

@[simp] theorem config_readied (r : Recognizer) (t : Touch) :
    (r.readied t).config = r.config := by
  unfold readied
  split <;> simp

@[simp] theorem onSurface_readied (r : Recognizer) (t : Touch) :
    (r.readied t).onSurface = r.onSurface := by
  unfold readied
  split <;> simp

@[simp] theorem latched_readied (r : Recognizer) (t : Touch) :
    (r.readied t).latched = r.latched := by
  unfold readied
  split <;> simp

@[simp] theorem triggered_not_mem_opening (r : Recognizer) (t : Touch) :
    Signal.triggered ∉ r.opening t := by
  unfold opening
  split <;> simp

theorem motion_of_crowded (r : Recognizer) (h : Host) (t : Touch) (many : r.Crowded) :
    (r.motion h t .land).answer = false ∧
      (r.motion h t .land).state = ((r.readied t).abandon .extraPointer).state ∧
      (r.motion h t .land).signals =
        r.opening t ++ .log (.tooManyPointers r.onSurface.length) ::
          ((r.readied t).abandon .extraPointer).signals := by
  unfold Crowded at many
  by_cases restarts : t.kind = .down ∧ r.tracked ≠ []
  · simp [motion, readied, opening, restarts, many]
  · simp [motion, readied, opening, restarts, many, Outcome.silent]

theorem motion_of_tracked (r : Recognizer) (h : Host) (t : Touch) (k : Touch.Motion)
    (few : k = .land → ¬ r.Crowded) :
    let step := (r.readied t).tracker.step (r.view h) k t.contact
    (r.motion h t k).answer = step.2.consumes ∧
      (r.motion h t k).state = ((r.readied t).advance step t.time (t.kind = .up)).state ∧
      (r.motion h t k).signals =
        r.opening t ++ ((r.readied t).advance step t.time (t.kind = .up)).signals := by
  have pass : ¬ (k = .land ∧ r.config.gesture.maxPointers < r.onSurface.length) :=
    fun both => few both.1 both.2
  by_cases restarts : t.kind = .down ∧ r.tracked ≠ []
  · simp [motion, readied, opening, restarts, pass, view]
  · simp [motion, readied, opening, restarts, pass, Outcome.silent]

theorem touch_course (r : Recognizer) (h : Host) (t : Touch) :
    TouchCourse r h t (r.touch h t) := by
  cases listening : h.exploring with
  | true =>
      rw [touch_exploring listening]
      exact .explored listening
  | false =>
      by_cases held : r.latched = true ∧ t.kind ≠ .down
      · have eq : r.touch h t =
            .silent { r.counted t with latched := !t.kind.endsStream } false := by
          simp [touch, listening, held, counted]
        rw [eq]
        exact .heldBack listening held.1 held.2
      · have opened : r.latched = true → t.kind = .down := by
          simpa using held
        cases motion : t.kind.motion? with
        | none =>
            have cancels : t.kind = .cancel := Touch.Kind.motion?_eq_none_iff.1 motion
            have free : r.latched = false := by
              simpa [cancels] using opened
            have eq : r.touch h t =
                ((r.counted t).abandon .cancelled).answering false := by
              simp [touch, listening, free, motion, counted]
            rw [eq]
            exact .cancelled listening free cancels
        | some k =>
            have eq : r.touch h t = (r.counted t).motion h t k := by
              simp [touch, listening, held, motion, counted]
            rw [eq]
            by_cases many : k = .land ∧ (r.counted t).Crowded
            · obtain ⟨rfl, many⟩ := many
              obtain ⟨answer, state, signals⟩ := motion_of_crowded (r.counted t) h t many
              exact .crowded listening opened motion many answer state signals
            · have few : k = .land → ¬ (r.counted t).Crowded :=
                fun lands crowd => many ⟨lands, crowd⟩
              obtain ⟨answer, state, signals⟩ := motion_of_tracked (r.counted t) h t k few
              exact .seen listening opened motion few rfl answer state signals

/-! ### The other requests -/

/-- What becomes of a tick. -/
theorem tick_cases (r : Recognizer) (h : Host) (now : Time) :
    ((r.latched = true ∨ h.exploring = true) ∧ r.tick h now = .silent r false) ∨
    (r.latched = false ∧ h.exploring = false ∧
      r.tick h now =
        (r.advance (r.tracker.tick (r.view h) now) now false).answering
          (decide ((r.tracker.tick (r.view h) now).2 = .complete))) := by
  by_cases closed : r.latched = true ∨ h.exploring = true
  · exact Or.inl ⟨closed, by simp [tick, closed]⟩
  · right
    have open_both : r.latched = false ∧ h.exploring = false := by simpa using closed
    exact ⟨open_both.1, open_both.2, by simp [tick, open_both]⟩

/-- A tick fires by completing the attempt of a recognizer that listens. -/
theorem complete_of_tick_fires {r : Recognizer} {h : Host} {now : Time}
    (fires : Signal.triggered ∈ (r.tick h now).signals) :
    r.latched = false ∧ h.exploring = false ∧
      (r.tracker.tick (r.view h) now).2 = .complete := by
  rcases tick_cases r h now with ⟨_, eq⟩ | ⟨opened, listening, eq⟩
  · simp [eq, Outcome.silent] at fires
  · exact ⟨opened, listening, by simpa [eq, Outcome.answering] using fires⟩

/-- What becomes of a reload. -/
inductive ReloadCourse (r : Recognizer) (h : Host) :
    Outcome Recognizer (Except ConfigError Unit) → Prop
  /-- An attempt is in progress. -/
  | refused (begun : r.stage ≠ .idle) :
      ReloadCourse r h ⟨.error .gestureInProgress, r, [.log (.reloadRefused r.stage)]⟩
  /-- The host has no configuration that can be used. -/
  | failed {e : ConfigError} (idle : r.stage = .idle) (unusable : h.load = .error e) :
      ReloadCourse r h ⟨.error e, r, [.log (.reloadFailed e)]⟩
  /-- The configuration of the host is taken over. -/
  | done {c : Config} (idle : r.stage = .idle) (loaded : h.load = .ok c) :
      ReloadCourse r h ⟨.ok (), r.configured c, [.log (.reloaded c.gesture)]⟩

theorem reload_course (r : Recognizer) (h : Host) : ReloadCourse r h (r.reload h) := by
  by_cases idle : r.stage = .idle
  · cases loaded : h.load with
    | error e =>
        simp only [reload, idle, loaded, ne_eq, not_true_eq_false, if_false]
        exact .failed idle loaded
    | ok c =>
        simp only [reload, idle, loaded, ne_eq, not_true_eq_false, if_false]
        exact .done idle loaded
  · simp only [reload, ne_eq, idle, not_false_eq_true, if_true]
    exact .refused idle

/-- A reload is logged and leaves the recognizer alone or gives it another configuration. -/
theorem reload_cases (r : Recognizer) (h : Host) :
    (∃ entry, (r.reload h).signals = [.log entry]) ∧
      ((r.reload h).state = r ∨
        r.stage = .idle ∧ ∃ c, (r.reload h).state = r.configured c) := by
  have course := reload_course r h
  generalize r.reload h = o at course ⊢
  cases course with
  | refused => exact ⟨⟨_, rfl⟩, Or.inl rfl⟩
  | failed => exact ⟨⟨_, rfl⟩, Or.inl rfl⟩
  | done idle => exact ⟨⟨_, rfl⟩, Or.inr ⟨idle, _, rfl⟩⟩

end Recognizer
end ExitGesture
