/-!
# Stages of an attempt

How far an attempt has come, what it waits for, why it was given up, and what a tracker decides
about one event.
-/

namespace ExitGesture

/-- How far an attempt has come. -/
inductive Stage
  /-- Nothing is tracked. -/
  | idle
  /-- A contact is recorded and a condition of the gesture is outstanding. -/
  | pending
  /-- The gesture is validated and its hold runs. -/
  | active
  deriving DecidableEq, Repr

namespace Stage

def all : List Stage := [.idle, .pending, .active]

def name : Stage → String
  | .idle => "Idle"
  | .pending => "Pending"
  | .active => "Active"

end Stage

/-- What a pending attempt waits for. -/
inductive Awaiting
  /-- The partner of the first pointer. -/
  | secondPointer
  /-- The end of the long press. -/
  | longPress
  /-- The arrival of the dragged pointer at an edge. -/
  | edge
  /-- More taps after `completed` ones. -/
  | taps (completed : Nat)
  deriving DecidableEq, Repr

/-- Why an attempt was given up. -/
inductive AbandonReason
  /-- The host aborted the stream. -/
  | cancelled
  /-- The host asked for it. -/
  | requested
  /-- A tracked pointer lifted too early. -/
  | pointerLifted
  /-- A tracked pointer strayed. -/
  | drift
  /-- More pointers than the gesture takes. -/
  | extraPointer
  /-- The second pointer landed in the wrong place. -/
  | invalidPairing
  /-- The pointer held at an edge left it. -/
  | leftEdge
  /-- A tap, or the time between taps, was too long. -/
  | tapTimeout
  /-- A new stream began while the last one was tracked. -/
  | streamRestarted
  /-- The first pointer was left alone for too long. -/
  | pairingTimeout
  deriving DecidableEq, Repr

def AbandonReason.name : AbandonReason → String
  | .cancelled => "Cancelled"
  | .requested => "Requested"
  | .pointerLifted => "PointerLifted"
  | .drift => "Drift"
  | .extraPointer => "ExtraPointer"
  | .invalidPairing => "InvalidPairing"
  | .leftEdge => "LeftEdge"
  | .tapTimeout => "TapTimeout"
  | .streamRestarted => "StreamRestarted"
  | .pairingTimeout => "PairingTimeout"

/-- What a tracker decides about one event or one look at the clock. -/
inductive Verdict
  /-- The attempt goes on, or there is none; `consumed` asks the host not to react. -/
  | proceed (consumed : Bool)
  /-- A partner landed `gap` milliseconds after the first pointer, too late or in its place: the
  attempt starts again from it. -/
  | restart (gap : Nat)
  /-- The hold goes on and a pulse is due after `held` milliseconds. -/
  | pulse (held : Nat)
  /-- The attempt fails. -/
  | abandon (reason : AbandonReason)
  /-- The gesture is complete. -/
  | complete
  deriving DecidableEq, Repr

end ExitGesture
