import ExitGesture.Tracker.HoldTimer
import ExitGesture.Tracker.View

/-!
# Holding a pair of pointers

Both two-finger gestures have one course: a first pointer lands, a second one lands within the
pairing window, the pair is checked against a region, and then both stay where they landed for the
duration of the hold.  Only the region differs.

**Phases.**
* `idle`: no contact.
* `awaitingSecond first`: one contact, waiting for its partner.
* `holding first second timer`: a valid pair.
-/

namespace ExitGesture
namespace PairHold

/-- Where a pair has to land. -/
inductive Region
  /-- In the two corner squares, far enough apart. -/
  | oppositeCorners
  /-- Both in the header region. -/
  | header
  deriving DecidableEq, Repr

/-- Whether a pair landed where it has to. -/
def Region.accepts (v : View) (a b : Point) : Region → Bool
  | .oppositeCorners => v.surface.isOppositePair a b
  | .header => v.header.contains a && v.header.contains b

/-- The course of an attempt. -/
inductive Phase
  | idle
  | awaitingSecond (first : Contact)
  | holding (first second : Contact) (timer : HoldTimer)
  deriving DecidableEq

namespace Phase

def stage : Phase → Stage
  | .idle => .idle
  | .awaitingSecond _ => .pending
  | .holding _ _ _ => .active

def awaiting : Phase → Option Awaiting
  | .awaitingSecond _ => some .secondPointer
  | .idle | .holding _ _ _ => none

/-- The pointers of the attempt, in the order in which they landed. -/
def tracked : Phase → List PointerId
  | .idle => []
  | .awaitingSecond first => [first.pointer]
  | .holding first second _ => [first.pointer, second.pointer]

theorem stage_eq_idle_iff {p : Phase} : p.stage = .idle ↔ p = .idle := by
  cases p <;> simp [stage]

theorem tracked_eq_nil_iff {p : Phase} : p.tracked = [] ↔ p = .idle := by
  cases p <;> simp [tracked]

end Phase

/-- Whether the first pointer has waited longer than the pairing window. -/
def expired (v : View) (first : Contact) (now : Time) : Bool :=
  v.config.pairTimeout.millis < now - first.time

def land (region : Region) (v : View) (c : Contact) : Phase → Phase × Verdict
  | .idle => (.awaitingSecond c, .proceed false)
  | .awaitingSecond first =>
      -- a partner that is late, or the same pointer again, is a first pointer itself
      if c.pointer = first.pointer ∨ expired v first c.time then
        (.awaitingSecond c, .restart (c.time - first.time))
      else if region.accepts v first.position c.position then
        (.holding first c (.start c.time), .proceed true)
      else (.awaitingSecond first, .abandon .invalidPairing)
  | .holding first second timer => (.holding first second timer, .abandon .extraPointer)

def move (v : View) (c : Contact) : Phase → Phase × Verdict
  | .idle => (.idle, .proceed false)
  | .awaitingSecond first =>
      let verdict : Verdict :=
        if c.pointer ≠ first.pointer then .proceed false
        else if expired v first c.time then .abandon .pairingTimeout
        else if v.strays (first.drift c) then .abandon .drift
        else .proceed false
      (.awaitingSecond first, verdict)
  | .holding first second timer =>
      let anchor? := [first, second].find? (·.pointer = c.pointer)
      if anchor?.any fun anchor => v.strays (anchor.drift c) then
        (.holding first second timer, .abandon .drift)
      else
        let (timer, verdict) := timer.advance v.config c.time
        (.holding first second timer, verdict)

def lift (c : Contact) : Phase → Phase × Verdict
  | .idle => (.idle, .proceed false)
  | .awaitingSecond first =>
      (.awaitingSecond first,
        if c.pointer = first.pointer then .abandon .pointerLifted else .proceed false)
  | .holding first second timer =>
      (.holding first second timer,
        if c.pointer = first.pointer ∨ c.pointer = second.pointer then .abandon .pointerLifted
        else .proceed true)

def step (region : Region) (v : View) (p : Phase) (m : Touch.Motion) (c : Contact) :
    Phase × Verdict :=
  match m with
  | .land => land region v c p
  | .move => move v c p
  | .lift => lift c p

def tick (v : View) (now : Time) : Phase → Phase × Verdict
  | .idle => (.idle, .proceed false)
  | .awaitingSecond first =>
      (.awaitingSecond first,
        if expired v first now then .abandon .pairingTimeout else .proceed false)
  | .holding first second timer =>
      let (timer, verdict) := timer.advance v.config now
      (.holding first second timer, verdict)

end PairHold
end ExitGesture
