import ExitGesture.Signal

/-!
# Listeners

A listener counts triggers and, if it hears them, keeps the pulses of holds.  It may also answer a
trigger or a pulse by turning touch exploration on, as a host does whose reaction to the gesture is
to hand the input over.
-/

namespace ExitGesture

/-- What makes a listener turn touch exploration on. -/
inductive Cue
  | trigger
  | pulse
  deriving DecidableEq, Repr

/-- Somebody who is told about triggers and pulses. -/
structure Listener where
  hearsPulses : Bool
  cue : Option Cue
  triggers : Nat
  /-- Held times of the pulses heard, in milliseconds. -/
  pulses : List Nat
  deriving DecidableEq, Repr

namespace Listener

/-- Hears everything and does nothing about it. -/
def recorder : Listener := ⟨true, none, 0, []⟩

/-- Hears triggers alone. -/
def counter : Listener := ⟨false, none, 0, []⟩

/-- Hears everything and turns exploration on at a cue. -/
def exploringOn (cue : Cue) : Listener := ⟨true, some cue, 0, []⟩

/-- Take notice of a signal. -/
def hear (l : Listener) : Signal → Listener
  | .triggered => { l with triggers := l.triggers + 1 }
  | .pulse held => if l.hearsPulses then { l with pulses := l.pulses ++ [held] } else l
  | .log _ => l

/-- Take notice of signals in order. -/
def hearAll (l : Listener) (signals : List Signal) : Listener :=
  signals.foldl hear l

/-- Whether a signal makes the listener turn exploration on. -/
def reactsTo (l : Listener) : Signal → Bool
  | .triggered => l.cue = some .trigger
  | .pulse _ => l.cue = some .pulse
  | .log _ => false

/-- The pulses among some signals that the listener hears. -/
def heardPulses (l : Listener) (signals : List Signal) : List Nat :=
  if l.hearsPulses then
    signals.filterMap fun
      | .pulse held => some held
      | _ => none
  else []

/-- The log of some signals.  A pulse that is heard is logged where it is heard. -/
def logOf (l : Listener) (signals : List Signal) : List LogEntry :=
  signals.filterMap fun
    | .log entry => some entry
    | .pulse held => if l.hearsPulses then some (.pulse held) else none
    | .triggered => none

def clear (l : Listener) : Listener := { l with triggers := 0, pulses := [] }

end Listener
end ExitGesture
