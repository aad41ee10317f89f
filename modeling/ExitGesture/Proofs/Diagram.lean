import ExitGesture.Proofs.Abandonment
import ExitGesture.Proofs.Completeness.Basic
import ExitGesture.Proofs.Soundness.TripleTap

/-!
# The state diagram

One diagram of stages holds for all gestures, whatever a call passes through on its way.

    idle    -> pending   a pointer lands
    pending -> active    the gesture is validated; three taps never are
    active  -> pending   the first pointer of a new stream lands
    any     -> idle      the gesture fires, or the attempt is given up for a reason
-/

namespace ExitGesture

/-! ### Trackers -/

namespace Tracker

variable {v : View}

/-- Something is waited for exactly while the attempt is pending. -/
theorem isSome_awaiting_iff {τ : Tracker} : τ.awaiting.isSome = true ↔ τ.stage = .pending := by
  rcases τ with ⟨region, p⟩ | p | p <;> cases p <;> simp [awaiting, stage,
    PairHold.Phase.awaiting, PairHold.Phase.stage, EdgeDrag.Phase.awaiting, EdgeDrag.Phase.stage,
    TripleTap.Phase.awaiting, TripleTap.Phase.stage]

/-- Nothing but a landing begins an attempt, and it leaves it pending. -/
theorem landed_of_begun {τ : Tracker} {s : Stimulus} (idle : τ.stage = .idle)
    (begun : (τ.react v s).1.stage ≠ .idle) :
    (∃ c, s = .motion .land c) ∧ (τ.react v s).1.stage = .pending := by
  cases s with
  | tick now => exact absurd (idle_react (s := .tick now) idle trivial) begun
  | motion k c =>
      cases k with
      | land =>
          refine ⟨⟨c, rfl⟩, ?_⟩
          rw [stage_eq_idle_iff.1 idle]
          show ((ofGesture τ.gesture).step v .land c).1.stage = .pending
          rw [land_ofGesture]
          exact stage_landed c _
      | move => exact absurd (idle_react (s := .motion .move c) idle trivial) begun
      | lift => exact absurd (idle_react (s := .motion .lift c) idle trivial) begun

end Tracker

namespace Recognizer

variable {r : Recognizer} {m : Moment} {h : Host} {t : Touch}

/-- What can become of the stage: the attempt is over, it goes on and takes no stage back, or a
landing that is heard has begun one.  Only the first landing of a stream begins one over another. -/
def StageCase (r : Recognizer) (m : Moment) (g : Stage) : Prop :=
  g = .idle ∨ (r.stage ≠ .idle ∧ r.stage.rank ≤ g.rank) ∨
    g = .pending ∧ ∃ t, m.Hears t ∧ t.kind.isDown = true ∧ (r.stage ≠ .idle → t.kind = .down)

theorem stageCase_of_same (r : Recognizer) (m : Moment) : StageCase r m r.stage := by
  by_cases idle : r.stage = .idle
  · exact Or.inl idle
  · exact Or.inr (Or.inl ⟨idle, Nat.le_refl _⟩)

/-- A step of a tracker that a moment has readied for a stimulus. -/
theorem stageCase_of_advance {ready : Recognizer} {v : View} {s : Stimulus} (now : Time)
    (ends : Bool)
    (readied : ready.stage = r.stage ∨
      ready.stage = .idle ∧ ∃ t, m.Hears t ∧ t.kind = .down)
    (hears : ∀ c, s = .motion .land c → ∃ t, m.Hears t ∧ t.kind.isDown = true) :
    StageCase r m (ready.advance (ready.tracker.react v s) now ends).state.stage := by
  by_cases ended : (ready.advance (ready.tracker.react v s) now ends).state.stage = .idle
  · exact Or.inl ended
  · right
    have lasts := lasts_of_stage_advance ended
    rw [state_advance_of_lasts _ _ _ _ lasts] at ended ⊢
    by_cases idle : ready.stage = .idle
    · right
      obtain ⟨⟨c, rfl⟩, pending⟩ := Tracker.landed_of_begun idle ended
      refine ⟨pending, ?_⟩
      rcases readied with same | ⟨_, t, heard, down⟩
      · obtain ⟨t, heard, lands⟩ := hears c rfl
        exact ⟨t, heard, lands, fun begun => absurd (same.symm.trans idle) begun⟩
      · exact ⟨t, heard, Touch.Kind.isDown_iff.2 (Or.inl down), fun _ => down⟩
    · left
      have same := readied.resolve_right fun restarted => idle restarted.1
      rw [← same]
      exact ⟨idle, Tracker.rank_react _ s⟩

theorem stageCase_touch (r : Recognizer) (h : Host) (t : Touch) :
    StageCase r ⟨h, .touch t⟩ (r.touch h t).state.stage := by
  have course := touch_course r h t
  generalize r.touch h t = o at course ⊢
  cases course with
  | explored => exact stageCase_of_same r _
  | heldBack => exact stageCase_of_same r _
  | cancelled => exact Or.inl (stage_abandon _ _)
  | crowded _ _ _ _ _ state =>
      rw [state]
      exact Or.inl (stage_abandon _ _)
  | @seen _ k _ listening _ motion _ stepped _ state =>
      rw [state, stepped]
      refine stageCase_of_advance (s := .motion k t.contact) t.time _ ?_ ?_
      · rcases (r.counted t).readied_cases t with same | ⟨down, idle, _⟩
        · rw [same]
          exact Or.inl rfl
        · exact Or.inr ⟨idle, t, ⟨listening, rfl⟩, down⟩
      · intro c landing
        cases landing
        exact ⟨t, ⟨listening, rfl⟩, by simp [Touch.Kind.isDown, motion]⟩

/-- What a moment can do to the stage. -/
theorem stage_cases (r : Recognizer) (m : Moment) : StageCase r m (r.after m).stage := by
  obtain ⟨h, q⟩ := m
  cases q with
  | touch t => exact stageCase_touch r h t
  | tick now =>
      show StageCase r _ (r.tick h now).state.stage
      rcases tick_cases r h now with ⟨_, eq⟩ | ⟨_, _, eq⟩
      · rw [eq]
        exact stageCase_of_same r _
      · rw [eq]
        refine stageCase_of_advance (s := .tick now) now false (Or.inl rfl) ?_
        intro c landing
        cases landing
  | reset => exact Or.inl (stage_abandon _ _)
  | reload =>
      show StageCase r _ (r.reload h).state.stage
      obtain ⟨_, eq | ⟨idle, c, eq⟩⟩ := reload_cases r h
      · rw [eq]
        exact stageCase_of_same r _
      · rw [eq]
        exact Or.inl (stage_configured idle c)

/-! ### The diagram -/

/-- What a moment does to the stage of a recognizer, and when it fires. -/
structure Diagram (r : Recognizer) (m : Moment) : Prop where
  /-- Something is waited for exactly while the attempt is pending. -/
  awaits : r.awaiting.isSome = true ↔ r.stage = .pending
  /-- Only a landing leads out of idle, and it leads to pending. -/
  begins : r.stage = .idle → (r.after m).stage ≠ .idle →
    (r.after m).stage = .pending ∧ ∃ t, m.Hears t ∧ t.kind.isDown = true
  /-- An attempt becomes active from pending. -/
  activates : r.stage ≠ .active → (r.after m).stage = .active → r.stage = .pending
  /-- Taps are never active. -/
  taps_pend : r.config.gesture = .tripleTapDebug → r.stage ≠ .active
  /-- Only the first landing of a stream leads from active to pending. -/
  restarts : r.stage = .active → (r.after m).stage = .pending → ∃ t, m.Hears t ∧ t.kind = .down
  /-- A trigger leads to idle and is no abandonment. -/
  fires : r.Fires m → (r.after m).stage = .idle ∧ (r.after m).lastAbandon = r.lastAbandon
  /-- A hold fires while it is active, by a tick or a move. -/
  hold_fires : r.config.gesture ≠ .tripleTapDebug → r.Fires m → r.stage = .active ∧
    ((∃ now, m.request = .tick now) ∨ ∃ t, m.request = .touch t ∧ t.kind = .move)
  /-- Taps fire after two of them, by the lift of the pressed pointer. -/
  taps_fire : r.config.gesture = .tripleTapDebug → r.Fires m → r.awaiting = some (.taps 2) ∧
    ∃ t, m.Hears t ∧ t.kind.isUp = true ∧ r.tracked = [t.pointer]
  /-- An attempt that is over without a trigger was given up for a reason. -/
  gives_up : r.stage ≠ .idle → (r.after m).stage = .idle → ¬ r.Fires m →
    (r.after m).lastAbandon.isSome = true

/-- While no landing is heard, an idle recognizer stays idle. -/
theorem idle_run (idle : r.stage = .idle) {later : List Moment}
    (none_lands : ∀ n ∈ later, ∀ t, n.Hears t → t.kind.isDown = false) :
    (r.run later).stage = .idle := by
  induction later generalizing r with
  | nil => exact idle
  | cons n rest ih =>
      obtain ⟨none_now, none_later⟩ := List.forall_mem_cons.1 none_lands
      refine ih ?_ none_later
      rcases r.stage_cases n with idle_after | ⟨begun, _⟩ | ⟨_, t, heard, lands, _⟩
      · exact idle_after
      · exact absurd idle begun
      · simp [none_now t heard] at lands

/-- Taps fire after two of them, by the lift of the pressed pointer. -/
theorem taps_fire (c : Config) (history : List Moment) (m : Moment)
    (taps : ((ofConfig c).run history).config.gesture = .tripleTapDebug)
    (fires : ((ofConfig c).run history).Fires m) :
    ((ofConfig c).run history).awaiting = some (.taps 2) ∧
      ∃ t, m.Hears t ∧ t.kind.isUp = true ∧ ((ofConfig c).run history).tracked = [t.pointer] := by
  have wf := (WellFormed.ofConfig c).run history
  have told := TripleTap.explains.holds_of_run c history
  obtain ⟨s, heard, complete⟩ := complete_of_fires wf fires
  obtain ⟨p, tracker⟩ := Tracker.tripleTap_of_gesture (wf.gesture.trans taps)
  rw [tracker, TripleTap.tracker_react] at complete
  obtain ⟨anchor, lastDown, completed, press, b, rfl, rfl, same, _, last⟩ :=
    TripleTap.tapping_of_complete complete
  have awaiting : ((ofConfig c).run history).awaiting = some (.taps completed) :=
    congrArg Tracker.awaiting tracker
  have tracked : ((ofConfig c).run history).tracked = [press.pointer] :=
    congrArg Tracker.tracked tracker
  -- a third tap is never counted: its lift fires
  have two : completed = 2 := by
    have few := TripleTap.counted_of_awaiting told awaiting
    unfold TripleTap.required at last
    omega
  obtain ⟨listening, ⟨now, _, is_tick⟩ | ⟨t, k, asked, motion, lifted⟩⟩ :=
    Moment.request_of_heard heard
  · cases is_tick
  · cases lifted
    refine ⟨two ▸ awaiting, t, ⟨listening, asked⟩, by simp [Touch.Kind.isUp, motion], ?_⟩
    rw [tracked, ← same]
    rfl

/-- The diagram of stages holds for every moment of every run.  In particular no attempt begins
before a landing is heard, neither by a tick nor after one was given up. -/
theorem diagram_of_run (c : Config) (history : List Moment) :
    let r := (ofConfig c).run history
    (∀ m, Diagram r m) ∧
      ∀ later, (∀ n ∈ later, ∀ t, n.Hears t → t.kind.isDown = false) → r.stage = .idle →
        (r.run later).stage = .idle := by
  intro r
  have wf : r.WellFormed := (WellFormed.ofConfig c).run history
  refine ⟨fun m => ?_, fun later none_lands idle => idle_run idle none_lands⟩
  have cases := r.stage_cases m
  constructor
  · exact Tracker.isSome_awaiting_iff
  · intro idle begun
    rcases cases with ended | ⟨begun_before, _⟩ | ⟨pending, t, heard, lands, _⟩
    · exact absurd ended begun
    · exact absurd idle begun_before
    · exact ⟨pending, t, heard, lands⟩
  · intro inactive active
    rcases cases with ended | ⟨begun, _⟩ | ⟨pending, _⟩
    · simp [active] at ended
    · cases stage : r.stage with
      | idle => exact absurd stage begun
      | pending => rfl
      | active => exact absurd stage inactive
    · simp [active] at pending
  · intro taps active
    obtain ⟨p, tracker⟩ := Tracker.tripleTap_of_gesture (wf.gesture.trans taps)
    have stage : p.stage = .active := (congrArg Tracker.stage tracker).symm.trans active
    cases p <;> cases stage
  · intro active pending
    rcases cases with ended | ⟨_, forward⟩ | ⟨_, t, heard, _, down⟩
    · simp [pending] at ended
    · simp [active, pending, Stage.rank] at forward
    · exact ⟨t, heard, down (by simp [active])⟩
  · exact after_of_fires
  · intro holds fires
    obtain ⟨s, heard, complete⟩ := complete_of_fires wf fires
    rw [← wf.gesture] at holds
    obtain ⟨active, steady⟩ := Tracker.active_of_complete holds complete
    exact ⟨active, Moment.Steady.request ⟨s, heard, steady⟩⟩
  · exact taps_fire c history m
  · intro begun ended silent
    obtain ⟨why, kept, _⟩ := records_of_ended begun ended silent
    rw [kept]
    rfl

/-- A new stream begins over a pair that is held.  Another pair is cancelled, and neither its moves
nor a tick take it up again. -/
theorem diagram_of_run_corners :
    let host : Host := .phone .oppositeCornersHold
    let c : Config := .forScreen .oppositeCornersHold 1080 1920
    let pair := host.touches [⟨.down, 0, ⟨10, 10⟩, 0⟩, ⟨.pointerDown, 1, ⟨1070, 1910⟩, 50⟩]
    let cancelled := pair ++ host.touches [⟨.cancel, 0, ⟨10, 10⟩, 100⟩]
    let later : List Moment :=
      [⟨host, .touch ⟨.move, 0, ⟨10, 10⟩, 2600⟩⟩, ⟨host, .tick 2700⟩]
    let again : Moment := ⟨host, .touch ⟨.down, 7, ⟨10, 10⟩, 100⟩⟩
    let r := (ofConfig c).run pair
    r.stage = .active ∧ (r.after again).stage = .pending ∧
      (∃ t, again.Hears t ∧ t.kind = .down) ∧
      (((ofConfig c).run cancelled).run later).stage = .idle := by
  intro host c pair cancelled later again r
  have active : r.stage = .active := by decide +kernel
  have pending : (r.after again).stage = .pending := by decide +kernel
  have none_lands : ∀ n ∈ later, ∀ t, n.Hears t → t.kind.isDown = false := by
    refine List.forall_mem_cons.2 ⟨?_, List.forall_mem_singleton.2 ?_⟩
    · rintro t ⟨_, asked⟩
      rw [← Request.touch.inj asked]
      rfl
    · rintro t ⟨_, asked⟩
      cases asked
  exact ⟨active, pending, ((diagram_of_run c pair).1 again).restarts active pending,
    (diagram_of_run c cancelled).2 later none_lands (by decide +kernel)⟩

end Recognizer
end ExitGesture
