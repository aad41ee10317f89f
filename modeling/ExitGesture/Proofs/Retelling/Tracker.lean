import ExitGesture.Proofs.Retelling.Basic

/-!
# Retelling an attempt

A tracker that is told the same in another way takes the same course.  What it has stored is what it
was told: the contacts of its pointers, and the times of its timers.

**Results.**
* `Trackers.step`, `Trackers.tick`: both for every tracker.
* `Trackers.stage`, `Trackers.awaiting`, `Trackers.tracked`: what can be seen of a tracker.
-/

namespace ExitGesture
namespace Retelling

variable (ρ : Retelling)

/-- Two steps to related states, with verdicts that are told alike. -/
structure Steps {σ : Type} (related : σ → σ → Prop) (step step' : σ × Verdict) : Prop where
  state : related step.1 step'.1
  verdict : ρ.Verdicts step.2 step'.2

variable {ρ}

theorem Steps.same {σ : Type} {related : σ → σ → Prop} {s s' : σ} (holds : related s s')
    (w : Verdict) : ρ.Steps related (s, w) (s', w) :=
  ⟨holds, .same w⟩

theorem Steps.map {σ τ : Type} {related : σ → σ → Prop} {related' : τ → τ → Prop} {f : σ → τ}
    {step step' : σ × Verdict} (steps : ρ.Steps related step step')
    (keeps : ∀ s s', related s s' → related' (f s) (f s')) :
    ρ.Steps related' (step.map f id) (step'.map f id) :=
  ⟨keeps _ _ steps.state, steps.verdict⟩

variable (ρ)

/-! ### Pairs -/

inductive PairPhases : PairHold.Phase → PairHold.Phase → Prop
  | idle : PairPhases .idle .idle
  | awaitingSecond (first : Contact) :
      PairPhases (.awaitingSecond first) (.awaitingSecond (ρ.contact first))
  | holding (first second : Contact) {t t' : HoldTimer} (timers : ρ.Timers t t') :
      PairPhases (.holding first second t) (.holding (ρ.contact first) (ρ.contact second) t')

variable {ρ} {v v' : View}

namespace PairPhases

variable {region : PairHold.Region} {p p' : PairHold.Phase}

/-- Both pair gestures are judged by the hold and by the pairing window. -/
theorem judged (gesture : (Tracker.pairHold region p).gesture = v.config.gesture) :
    Gate.hold ∈ v.config.gesture.gates ∧ Gate.pairing ∈ v.config.gesture.gates := by
  rw [← gesture]
  cases region <;> simp [Tracker.gesture, Gesture.gates]

theorem land (phases : ρ.PairPhases p p') (views : ρ.Views v v')
    (gesture : (Tracker.pairHold region p).gesture = v.config.gesture) (c : Contact) :
    ρ.Steps ρ.PairPhases (PairHold.land region v c p)
      (PairHold.land region v' (ρ.contact c) p') := by
  cases phases with
  | idle => exact .same (.awaitingSecond c) _
  | awaitingSecond first =>
      simp only [PairHold.land, pointer_contact, position_contact, time_contact, name_eq_iff,
        views.expired (judged gesture).2, views.accepts gesture, Nat.add_sub_add_right]
      by_cases restarts : c.pointer = first.pointer ∨ PairHold.expired v first c.time = true
      · simp only [restarts, if_true]
        exact .same (.awaitingSecond c) _
      · simp only [restarts, if_false]
        by_cases accepted : region.accepts v first.position c.position = true
        · simp only [accepted, if_true]
          exact .same (.holding first c (.start c.time)) _
        · simp only [accepted, Bool.false_eq_true, if_false]
          exact .same (.awaitingSecond first) _
  | holding first second timers => exact .same (.holding first second timers) _

theorem move (phases : ρ.PairPhases p p') (views : ρ.Views v v')
    (gesture : (Tracker.pairHold region p).gesture = v.config.gesture) (c : Contact) :
    ρ.Steps ρ.PairPhases (PairHold.move v c p) (PairHold.move v' (ρ.contact c) p') := by
  cases phases with
  | idle => exact .same .idle _
  | awaitingSecond first =>
      simp only [PairHold.move, pointer_contact, time_contact, ne_eq, name_eq_iff,
        views.expired (judged gesture).2, views.strays, drift_contact]
      exact .same (.awaitingSecond first) _
  | @holding first second t t' timers =>
      have strayed :
          (([ρ.contact first, ρ.contact second].find? (·.pointer = (ρ.contact c).pointer)).any
            fun anchor => v'.strays (anchor.drift (ρ.contact c))) =
          ([first, second].find? (·.pointer = c.pointer)).any
            fun anchor => v.strays (anchor.drift c) := by
        by_cases is_first : first.pointer = c.pointer
        · simp [is_first, views.strays]
        · by_cases is_second : second.pointer = c.pointer
          · simp [is_first, is_second, views.strays]
          · simp [is_first, is_second]
      obtain ⟨timers', verdicts⟩ := timers.advance views.configs (judged gesture).1 c.time
      simp only [PairHold.move, strayed]
      split
      · exact .same (.holding first second timers) _
      · exact ⟨.holding first second timers', verdicts⟩

theorem lift (phases : ρ.PairPhases p p') (c : Contact) :
    ρ.Steps ρ.PairPhases (PairHold.lift c p) (PairHold.lift (ρ.contact c) p') := by
  cases phases with
  | idle => exact .same .idle _
  | awaitingSecond first =>
      simp only [PairHold.lift, pointer_contact, name_eq_iff]
      exact .same (.awaitingSecond first) _
  | holding first second timers =>
      simp only [PairHold.lift, pointer_contact, name_eq_iff]
      exact .same (.holding first second timers) _

theorem step (phases : ρ.PairPhases p p') (views : ρ.Views v v')
    (gesture : (Tracker.pairHold region p).gesture = v.config.gesture) (k : Touch.Motion)
    (c : Contact) :
    ρ.Steps ρ.PairPhases (PairHold.step region v p k c)
      (PairHold.step region v' p' k (ρ.contact c)) := by
  cases k with
  | land => exact phases.land views gesture c
  | move => exact phases.move views gesture c
  | lift => exact phases.lift c

theorem tick (phases : ρ.PairPhases p p') (views : ρ.Views v v')
    (gesture : (Tracker.pairHold region p).gesture = v.config.gesture) (now : Time) :
    ρ.Steps ρ.PairPhases (PairHold.tick v now p) (PairHold.tick v' (now + ρ.delay) p') := by
  cases phases with
  | idle => exact .same .idle _
  | awaitingSecond first =>
      simp only [PairHold.tick, views.expired (judged gesture).2]
      exact .same (.awaitingSecond first) _
  | holding first second timers =>
      obtain ⟨timers', verdicts⟩ := timers.advance views.configs (judged gesture).1 now
      exact ⟨.holding first second timers', verdicts⟩

end PairPhases

/-! ### Drags -/

variable (ρ)

inductive DragPhases : EdgeDrag.Phase → EdgeDrag.Phase → Prop
  | idle : DragPhases .idle .idle
  | pressed (contact : Contact) (last : Point) :
      DragPhases (.pressed contact last) (.pressed (ρ.contact contact) last)
  | dragging (pointer : PointerId) : DragPhases (.dragging pointer) (.dragging (ρ.name pointer))
  | holding (pointer : PointerId) (anchor : Point) {t t' : HoldTimer} (timers : ρ.Timers t t') :
      DragPhases (.holding pointer anchor t) (.holding (ρ.name pointer) anchor t')

variable {ρ}

namespace DragPhases

variable {p p' : EdgeDrag.Phase}

theorem tracked? (phases : ρ.DragPhases p p') : p'.tracked? = p.tracked?.map ρ.name := by
  cases phases <;> rfl

theorem engaged (phases : ρ.DragPhases p p') : p'.engaged = p.engaged := by
  cases phases <;> rfl

/-- A retold contact is tracked if the contact is. -/
theorem tracks_iff (phases : ρ.DragPhases p p') (c : Contact) :
    p'.tracked? = some (ρ.contact c).pointer ↔ p.tracked? = some c.pointer := by
  rw [phases.tracked?]
  cases p.tracked? <;> simp

theorem arrive (views : ρ.Views v v') (gesture : v.config.gesture = .singleFingerEdgeDragHold)
    (pointer : PointerId) (position : Point) (now : Time) :
    ρ.DragPhases (EdgeDrag.arrive v pointer position now)
      (EdgeDrag.arrive v' (ρ.name pointer) position (now + ρ.delay)) := by
  simp only [EdgeDrag.arrive, views.isAtEdge gesture]
  split
  · exact .holding pointer position (.start now)
  · exact .dragging pointer

theorem follow (phases : ρ.DragPhases p p') (views : ρ.Views v v')
    (gesture : v.config.gesture = .singleFingerEdgeDragHold) (c : Contact) :
    ρ.Steps ρ.DragPhases (EdgeDrag.follow v c p) (EdgeDrag.follow v' (ρ.contact c) p') := by
  cases phases with
  | idle => exact .same .idle _
  | pressed press last =>
      simp only [EdgeDrag.follow, time_contact, position_contact, pointer_contact,
        views.pressedLong gesture, views.strays, drift_contact]
      split
      · exact .same (arrive views gesture _ _ _) _
      · split
        · exact .same (.pressed press last) _
        · exact .same (.pressed press c.position) _
  | dragging pointer => exact .same (arrive views gesture _ _ _) _
  | holding pointer anchor timers =>
      have hold : Gate.hold ∈ v.config.gesture.gates := by simp [gesture, Gesture.gates]
      obtain ⟨timers', verdicts⟩ := timers.advance views.configs hold c.time
      simp only [EdgeDrag.follow, position_contact, views.isAtEdge gesture, views.strays]
      split
      · exact .same (.holding pointer anchor timers) _
      · split
        · exact .same (.holding pointer anchor timers) _
        · exact ⟨.holding pointer anchor timers', verdicts⟩

theorem step (phases : ρ.DragPhases p p') (views : ρ.Views v v')
    (gesture : v.config.gesture = .singleFingerEdgeDragHold) (k : Touch.Motion) (c : Contact) :
    ρ.Steps ρ.DragPhases (EdgeDrag.step v p k c) (EdgeDrag.step v' p' k (ρ.contact c)) := by
  cases k with
  | land =>
      simp only [EdgeDrag.step, phases.tracked?, Option.isSome_map]
      split
      · exact .same phases _
      · exact .same (.pressed c c.position) _
  | move =>
      simp only [EdgeDrag.step, phases.tracks_iff, phases.engaged]
      split
      · exact phases.follow views gesture c
      · exact .same phases _
  | lift =>
      simp only [EdgeDrag.step, phases.tracks_iff, phases.engaged]
      exact .same phases _

theorem tick (phases : ρ.DragPhases p p') (views : ρ.Views v v')
    (gesture : v.config.gesture = .singleFingerEdgeDragHold) (now : Time) :
    ρ.Steps ρ.DragPhases (EdgeDrag.tick v now p) (EdgeDrag.tick v' (now + ρ.delay) p') := by
  cases phases with
  | idle => exact .same .idle _
  | pressed press last =>
      simp only [EdgeDrag.tick, views.pressedLong gesture]
      split
      · exact .same (arrive views gesture _ _ _) _
      · exact .same (.pressed press last) _
  | dragging pointer => exact .same (.dragging pointer) _
  | holding pointer anchor timers =>
      have hold : Gate.hold ∈ v.config.gesture.gates := by simp [gesture, Gesture.gates]
      obtain ⟨timers', verdicts⟩ := timers.advance views.configs hold now
      exact ⟨.holding pointer anchor timers', verdicts⟩

end DragPhases

/-! ### Taps -/

variable (ρ)

inductive TapPhases : TripleTap.Phase → TripleTap.Phase → Prop
  | idle : TapPhases .idle .idle
  | tapping (anchor : Point) (lastDown : Time) (completed : Nat) (press : Option Contact) :
      TapPhases (.tapping anchor lastDown completed press)
        (.tapping anchor (lastDown + ρ.delay) completed (press.map ρ.contact))

variable {ρ}

namespace TapPhases

variable {p p' : TripleTap.Phase}

theorem tracked? (phases : ρ.TapPhases p p') : p'.tracked? = p.tracked?.map ρ.name := by
  cases phases with
  | idle => rfl
  | tapping anchor lastDown completed press => cases press <;> rfl

theorem land (phases : ρ.TapPhases p p') (views : ρ.Views v v')
    (gesture : v.config.gesture = .tripleTapDebug) (c : Contact) :
    ρ.Steps ρ.TapPhases (TripleTap.land v c p) (TripleTap.land v' (ρ.contact c) p') := by
  have first : ρ.TapPhases (TripleTap.start c) (TripleTap.start (ρ.contact c)) :=
    .tapping c.position c.time 0 (some c)
  cases phases with
  | idle => exact .same first _
  | tapping anchor lastDown completed press =>
      cases press with
      | some press => exact .same (.tapping anchor lastDown completed (some press)) _
      | none =>
          simp only [TripleTap.land, Option.map_none, time_contact, position_contact,
            views.overdue gesture, views.strays]
          split
          · exact .same first _
          · exact .same (.tapping anchor c.time completed (some c)) _

theorem step (phases : ρ.TapPhases p p') (views : ρ.Views v v')
    (gesture : v.config.gesture = .tripleTapDebug) (k : Touch.Motion) (c : Contact) :
    ρ.Steps ρ.TapPhases (TripleTap.step v p k c) (TripleTap.step v' p' k (ρ.contact c)) := by
  cases k with
  | land => exact phases.land views gesture c
  | move =>
      cases phases with
      | idle => exact .same .idle _
      | tapping anchor lastDown completed press =>
          cases press with
          | none => exact .same (.tapping anchor lastDown completed none) _
          | some press =>
              simp only [TripleTap.step, Option.map_some, pointer_contact, name_eq_iff,
                TripleTap.move, views.strays, drift_contact]
              exact .same (.tapping anchor lastDown completed (some press)) _
  | lift =>
      cases phases with
      | idle => exact .same .idle _
      | tapping anchor lastDown completed press =>
          cases press with
          | none => exact .same (.tapping anchor lastDown completed none) _
          | some press =>
              have pressed := TapPhases.tapping (ρ := ρ) anchor lastDown completed (some press)
              simp only [TripleTap.step, Option.map_some, pointer_contact, ne_eq, name_eq_iff,
                time_contact, views.overdue gesture]
              split
              · exact .same pressed _
              · split
                · exact .same pressed _
                · split
                  · exact .same pressed _
                  · exact .same (.tapping anchor lastDown (completed + 1) none) _

theorem tick (phases : ρ.TapPhases p p') (views : ρ.Views v v')
    (gesture : v.config.gesture = .tripleTapDebug) (now : Time) :
    ρ.Steps ρ.TapPhases (TripleTap.tick v now p) (TripleTap.tick v' (now + ρ.delay) p') := by
  cases phases with
  | idle => exact .same .idle _
  | tapping anchor lastDown completed press =>
      simp only [TripleTap.tick, views.overdue gesture]
      exact .same (.tapping anchor lastDown completed press) _

end TapPhases

/-! ### Trackers -/

variable (ρ)

/-- The trackers of one gesture. -/
inductive Trackers : Tracker → Tracker → Prop
  | pairHold (region : PairHold.Region) {p p' : PairHold.Phase} (phases : ρ.PairPhases p p') :
      Trackers (.pairHold region p) (.pairHold region p')
  | edgeDrag {p p' : EdgeDrag.Phase} (phases : ρ.DragPhases p p') :
      Trackers (.edgeDrag p) (.edgeDrag p')
  | tripleTap {p p' : TripleTap.Phase} (phases : ρ.TapPhases p p') :
      Trackers (.tripleTap p) (.tripleTap p')

variable {ρ}

namespace Trackers

variable {τ τ' : Tracker}

theorem ofGesture (g : Gesture) : ρ.Trackers (.ofGesture g) (.ofGesture g) := by
  cases g with
  | oppositeCornersHold => exact .pairHold .oppositeCorners .idle
  | twoFingerHeaderHold => exact .pairHold .header .idle
  | singleFingerEdgeDragHold => exact .edgeDrag .idle
  | tripleTapDebug => exact .tripleTap .idle

theorem gesture (trackers : ρ.Trackers τ τ') : τ'.gesture = τ.gesture := by
  cases trackers with
  | pairHold region phases => cases region <;> rfl
  | edgeDrag phases => rfl
  | tripleTap phases => rfl

theorem cleared (trackers : ρ.Trackers τ τ') : ρ.Trackers τ.cleared τ'.cleared := by
  rw [Tracker.cleared, Tracker.cleared, trackers.gesture]
  exact ofGesture τ.gesture

theorem stage (trackers : ρ.Trackers τ τ') : τ'.stage = τ.stage := by
  cases trackers with
  | pairHold region phases => cases phases <;> rfl
  | edgeDrag phases => cases phases <;> rfl
  | tripleTap phases => cases phases <;> rfl

theorem awaiting (trackers : ρ.Trackers τ τ') : τ'.awaiting = τ.awaiting := by
  cases trackers with
  | pairHold region phases => cases phases <;> rfl
  | edgeDrag phases => cases phases <;> rfl
  | tripleTap phases => cases phases <;> rfl

theorem tracked (trackers : ρ.Trackers τ τ') : τ'.tracked = τ.tracked.map ρ.name := by
  cases trackers with
  | pairHold region phases => cases phases <;> rfl
  | edgeDrag phases =>
      simp only [Tracker.tracked, phases.tracked?]
      exact Option.toList_map
  | tripleTap phases =>
      simp only [Tracker.tracked, phases.tracked?]
      exact Option.toList_map

theorem step (trackers : ρ.Trackers τ τ') (views : ρ.Views v v')
    (gesture : τ.gesture = v.config.gesture) (k : Touch.Motion) (c : Contact) :
    ρ.Steps ρ.Trackers (τ.step v k c) (τ'.step v' k (ρ.contact c)) := by
  cases trackers with
  | pairHold region phases =>
      exact (phases.step views gesture k c).map fun _ _ => .pairHold region
  | edgeDrag phases => exact (phases.step views gesture.symm k c).map fun _ _ => .edgeDrag
  | tripleTap phases => exact (phases.step views gesture.symm k c).map fun _ _ => .tripleTap

theorem tick (trackers : ρ.Trackers τ τ') (views : ρ.Views v v')
    (gesture : τ.gesture = v.config.gesture) (now : Time) :
    ρ.Steps ρ.Trackers (τ.tick v now) (τ'.tick v' (now + ρ.delay)) := by
  cases trackers with
  | pairHold region phases =>
      exact (phases.tick views gesture now).map fun _ _ => .pairHold region
  | edgeDrag phases => exact (phases.tick views gesture.symm now).map fun _ _ => .edgeDrag
  | tripleTap phases => exact (phases.tick views gesture.symm now).map fun _ _ => .tripleTap

end Trackers
end Retelling
end ExitGesture
