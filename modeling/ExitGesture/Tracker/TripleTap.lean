import ExitGesture.Tracker.Stage
import ExitGesture.Tracker.View

/-!
# Tapping three times

Three taps at one spot.  Each tap lands within the tap timeout of the one before and within the
drift tolerance of the first, and the third lift completes the gesture.  A tap that lands too late
or too far away is a first tap itself.

**Phases.**
* `idle`: no tap yet.
* `tapping anchor lastDown completed pressed`: `completed` taps since the first one at `anchor`, the
  last landing at `lastDown`; `pressed` is the contact of a tap in progress.
-/

namespace ExitGesture
namespace TripleTap

/-- How many taps make the gesture. -/
def required : Nat := 3

/-- The course of an attempt. -/
inductive Phase
  | idle
  | tapping (anchor : Point) (lastDown : Time) (completed : Nat) (pressed : Option Contact)
  deriving DecidableEq

namespace Phase

def stage : Phase → Stage
  | .idle => .idle
  | .tapping _ _ _ _ => .pending

def awaiting : Phase → Option Awaiting
  | .idle => none
  | .tapping _ _ completed _ => some (.taps completed)

/-- The pointer of the tap in progress. -/
def tracked? : Phase → Option PointerId
  | .idle => none
  | .tapping _ _ _ pressed => pressed.map Contact.pointer

theorem stage_eq_idle_iff {p : Phase} : p.stage = .idle ↔ p = .idle := by
  cases p <;> simp [stage]

end Phase

/-- A first tap lands. -/
def start (c : Contact) : Phase :=
  .tapping c.position c.time 0 (some c)

/-- Whether more than the tap timeout lies between two times. -/
def overdue (v : View) (since now : Time) : Bool :=
  v.config.tapTimeout.millis < now - since

def land (v : View) (c : Contact) : Phase → Phase × Verdict
  | .idle => (start c, .proceed false)
  | .tapping anchor lastDown completed (some press) =>
      (.tapping anchor lastDown completed (some press), .abandon .extraPointer)
  | .tapping anchor lastDown completed none =>
      if overdue v lastDown c.time || v.strays (anchor.distance c.position) then
        (start c, .proceed false)
      else (.tapping anchor c.time completed (some c), .proceed false)

/-- The pressed pointer moves. -/
def move (v : View) (press c : Contact) : Verdict :=
  if v.strays (press.drift c) then .abandon .drift else .proceed false

/-- A contact moves in one of the three ways.  Another pointer than the pressed one changes nothing
unless it lands. -/
def step (v : View) (p : Phase) (m : Touch.Motion) (c : Contact) : Phase × Verdict :=
  match m with
  | .land => land v c p
  | .move =>
      match p with
      | .tapping _ _ _ (some press) =>
          (p, if press.pointer = c.pointer then move v press c else .proceed false)
      | _ => (p, .proceed false)
  | .lift =>
      match p with
      | .tapping anchor lastDown completed (some press) =>
          if press.pointer ≠ c.pointer then (p, .proceed false)
          else if overdue v press.time c.time then (p, .abandon .tapTimeout)
          else if required ≤ completed + 1 then (p, .complete)
          else (.tapping anchor lastDown (completed + 1) none, .proceed false)
      | _ => (p, .proceed false)

def tick (v : View) (now : Time) : Phase → Phase × Verdict
  | .idle => (.idle, .proceed false)
  | .tapping anchor lastDown completed pressed =>
      (.tapping anchor lastDown completed pressed,
        if overdue v lastDown now then .abandon .tapTimeout else .proceed false)

end TripleTap
end ExitGesture
