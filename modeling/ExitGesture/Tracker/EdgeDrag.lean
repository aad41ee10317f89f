import ExitGesture.Tracker.HoldTimer
import ExitGesture.Tracker.View

/-!
# Dragging one pointer to an edge

One pointer is pressed in place until the long press is recognised, dragged to any edge without
lifting, and held there.  The hold is anchored where the edge was reached.

**Phases.**
* `idle`: no contact.
* `pressed contact last`: the long press runs; `last` is where the pointer was last seen.
* `dragging pointer`: the long press is over and the pointer is on its way.
* `holding pointer anchor timer`: the pointer is held at an edge.
-/

namespace ExitGesture
namespace EdgeDrag

/-- The course of an attempt. -/
inductive Phase
  | idle
  | pressed (contact : Contact) (last : Point)
  | dragging (pointer : PointerId)
  | holding (pointer : PointerId) (anchor : Point) (timer : HoldTimer)
  deriving DecidableEq

namespace Phase

def stage : Phase → Stage
  | .idle => .idle
  | .pressed _ _ | .dragging _ => .pending
  | .holding _ _ _ => .active

def awaiting : Phase → Option Awaiting
  | .pressed _ _ => some .longPress
  | .dragging _ => some .edge
  | .idle | .holding _ _ _ => none

/-- The pointer of the attempt. -/
def tracked? : Phase → Option PointerId
  | .idle => none
  | .pressed contact _ => some contact.pointer
  | .dragging pointer | .holding pointer _ _ => some pointer

/-- Whether the pointer belongs to the gesture: it does from the end of the long press. -/
def engaged : Phase → Bool
  | .idle | .pressed _ _ => false
  | .dragging _ | .holding _ _ _ => true

theorem stage_eq_idle_iff {p : Phase} : p.stage = .idle ↔ p = .idle := by
  cases p <;> simp [stage]

theorem tracked?_eq_none_iff {p : Phase} : p.tracked? = none ↔ p = .idle := by
  cases p <;> simp [tracked?]

end Phase

/-- The pointer is at a place after the long press: at an edge its hold begins. -/
def arrive (v : View) (pointer : PointerId) (position : Point) (now : Time) : Phase :=
  if v.surface.isAtEdge position then .holding pointer position (.start now)
  else .dragging pointer

/-- Whether a press that began with a contact has become a long press. -/
def pressedLong (v : View) (contact : Contact) (now : Time) : Bool :=
  v.config.longPress.millis ≤ now - contact.time

/-- The tracked pointer moves. -/
def follow (v : View) (c : Contact) : Phase → Phase × Verdict
  | .idle => (.idle, .proceed false)
  | .pressed contact last =>
      if pressedLong v contact c.time then
        (arrive v contact.pointer c.position c.time, .proceed true)
      else if v.strays (contact.drift c) then (.pressed contact last, .abandon .drift)
      else (.pressed contact c.position, .proceed false)
  | .dragging pointer => (arrive v pointer c.position c.time, .proceed true)
  | .holding pointer anchor timer =>
      if !v.surface.isAtEdge c.position then (.holding pointer anchor timer, .abandon .leftEdge)
      else if v.strays (anchor.distance c.position) then
        (.holding pointer anchor timer, .abandon .drift)
      else
        let (timer, verdict) := timer.advance v.config c.time
        (.holding pointer anchor timer, verdict)

/-- A contact moves in one of the three ways.  Another pointer than the tracked one changes nothing
unless it lands. -/
def step (v : View) (p : Phase) (m : Touch.Motion) (c : Contact) : Phase × Verdict :=
  match m with
  | .land =>
      if p.tracked?.isSome then (p, .abandon .extraPointer)
      else (.pressed c c.position, .proceed false)
  | .move => if p.tracked? = some c.pointer then follow v c p else (p, .proceed p.engaged)
  | .lift =>
      (p, if p.tracked? = some c.pointer then .abandon .pointerLifted else .proceed p.engaged)

def tick (v : View) (now : Time) : Phase → Phase × Verdict
  | .idle => (.idle, .proceed false)
  | .pressed contact last =>
      if pressedLong v contact now then (arrive v contact.pointer last now, .proceed true)
      else (.pressed contact last, .proceed false)
  | .dragging pointer => (.dragging pointer, .proceed true)
  | .holding pointer anchor timer =>
      let (timer, verdict) := timer.advance v.config now
      (.holding pointer anchor timer, verdict)

end EdgeDrag
end ExitGesture
