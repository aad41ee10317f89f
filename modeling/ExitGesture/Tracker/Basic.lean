import ExitGesture.Tracker.EdgeDrag
import ExitGesture.Tracker.PairHold
import ExitGesture.Tracker.TripleTap

/-!
# Trackers

A tracker follows the attempt at one gesture.  This module puts the courses of the four gestures
under one type, so that the recognizer need not know which gesture it serves.
-/

namespace ExitGesture

/-- The course of an attempt at one of the gestures. -/
inductive Tracker
  | pairHold (region : PairHold.Region) (phase : PairHold.Phase)
  | edgeDrag (phase : EdgeDrag.Phase)
  | tripleTap (phase : TripleTap.Phase)
  deriving DecidableEq

namespace Tracker

/-- The idle tracker of a gesture. -/
def ofGesture : Gesture → Tracker
  | .oppositeCornersHold => .pairHold .oppositeCorners .idle
  | .twoFingerHeaderHold => .pairHold .header .idle
  | .singleFingerEdgeDragHold => .edgeDrag .idle
  | .tripleTapDebug => .tripleTap .idle

/-- The gesture that a tracker serves. -/
def gesture : Tracker → Gesture
  | .pairHold .oppositeCorners _ => .oppositeCornersHold
  | .pairHold .header _ => .twoFingerHeaderHold
  | .edgeDrag _ => .singleFingerEdgeDragHold
  | .tripleTap _ => .tripleTapDebug

/-- The tracker without its attempt. -/
def cleared (t : Tracker) : Tracker := ofGesture t.gesture

def stage : Tracker → Stage
  | .pairHold _ p => p.stage
  | .edgeDrag p => p.stage
  | .tripleTap p => p.stage

def awaiting : Tracker → Option Awaiting
  | .pairHold _ p => p.awaiting
  | .edgeDrag p => p.awaiting
  | .tripleTap p => p.awaiting

def tracked : Tracker → List PointerId
  | .pairHold _ p => p.tracked
  | .edgeDrag p => p.tracked?.toList
  | .tripleTap p => p.tracked?.toList

def step (v : View) (t : Tracker) (m : Touch.Motion) (c : Contact) : Tracker × Verdict :=
  match t with
  | .pairHold region p => (PairHold.step region v p m c).map (.pairHold region) id
  | .edgeDrag p => (EdgeDrag.step v p m c).map .edgeDrag id
  | .tripleTap p => (TripleTap.step v p m c).map .tripleTap id

def tick (v : View) (t : Tracker) (now : Time) : Tracker × Verdict :=
  match t with
  | .pairHold region p => (PairHold.tick v now p).map (.pairHold region) id
  | .edgeDrag p => (EdgeDrag.tick v now p).map .edgeDrag id
  | .tripleTap p => (TripleTap.tick v now p).map .tripleTap id

theorem gesture_ofGesture (g : Gesture) : (ofGesture g).gesture = g := by
  cases g <;> rfl

theorem gesture_cleared (t : Tracker) : t.cleared.gesture = t.gesture :=
  gesture_ofGesture _

theorem stage_ofGesture (g : Gesture) : (ofGesture g).stage = .idle := by
  cases g <;> rfl

theorem stage_cleared (t : Tracker) : t.cleared.stage = .idle :=
  stage_ofGesture _

theorem tracked_cleared (t : Tracker) : t.cleared.tracked = [] := by
  rcases t with ⟨⟨⟩, p⟩ | p | p <;> rfl

theorem gesture_step (v : View) (t : Tracker) (m : Touch.Motion) (c : Contact) :
    (t.step v m c).1.gesture = t.gesture := by
  rcases t with ⟨⟨⟩, p⟩ | p | p <;> rfl

theorem gesture_tick (v : View) (t : Tracker) (now : Time) :
    (t.tick v now).1.gesture = t.gesture := by
  rcases t with ⟨⟨⟩, p⟩ | p | p <;> rfl

end Tracker
end ExitGesture
