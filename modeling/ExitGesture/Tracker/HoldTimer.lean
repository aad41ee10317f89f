import ExitGesture.Config.Basic
import ExitGesture.Tracker.Stage

/-!
# The hold timer

A validated attempt has to last.  The timer remembers when the hold began and when the host last
felt a pulse; each look at the clock completes the hold, asks for a pulse or lets the hold go on.

A clock reading before the start counts as no time held.
-/

namespace ExitGesture

/-- Progress of one hold. -/
structure HoldTimer where
  since : Nat
  lastPulse : Nat
  deriving DecidableEq, Repr

namespace HoldTimer

/-- A hold that begins now. -/
def start (now : Nat) : HoldTimer := ⟨now, now⟩

/-- Look at the clock. -/
def advance (t : HoldTimer) (c : Config) (now : Nat) : HoldTimer × Verdict :=
  let held := now - t.since
  if c.hold.millis ≤ held then (t, .complete)
  else if c.pulseInterval.millis ≤ now - t.lastPulse then ({ t with lastPulse := now }, .pulse held)
  else (t, .proceed true)

theorem advance_complete_iff {t : HoldTimer} {c : Config} {now : Nat} :
    (t.advance c now).2 = .complete ↔ c.hold.millis ≤ now - t.since := by
  by_cases h : c.hold.millis ≤ now - t.since
  · simp [advance, h]
  · by_cases h' : c.pulseInterval.millis ≤ now - t.lastPulse <;> simp [advance, h, h']

theorem advance_since (t : HoldTimer) (c : Config) (now : Nat) :
    (t.advance c now).1.since = t.since := by
  by_cases h : c.hold.millis ≤ now - t.since
  · simp [advance, h]
  · by_cases h' : c.pulseInterval.millis ≤ now - t.lastPulse <;> simp [advance, h, h']

theorem advance_ne_abandon (t : HoldTimer) (c : Config) (now : Nat) (reason : AbandonReason) :
    (t.advance c now).2 ≠ .abandon reason := by
  by_cases h : c.hold.millis ≤ now - t.since
  · simp [advance, h]
  · by_cases h' : c.pulseInterval.millis ≤ now - t.lastPulse <;> simp [advance, h, h']

end HoldTimer
end ExitGesture
