import ExitGesture.Plane.Point

/-!
# Touches

A touch is one pointer action of the host: what happened, to which pointer, where and when.
Everything but a cancel is a motion of one contact, and the gesture trackers only ever see motions.
-/

namespace ExitGesture

/-- Identifies one contact for as long as it lasts. -/
abbrev PointerId := Int

/-- Milliseconds on the host's clock. -/
abbrev Time := Nat

/-- A pointer at a place and a time. -/
structure Contact where
  pointer : PointerId
  position : Point
  time : Time
  deriving DecidableEq

/-- How far apart two sightings of a pointer are. -/
def Contact.drift (anchor seen : Contact) : Float32 :=
  anchor.position.distance seen.position

namespace Touch

/-- What happened to a pointer. -/
inductive Kind
  /-- The first pointer of a stream touched the surface. -/
  | down
  /-- A further pointer touched the surface. -/
  | pointerDown
  /-- A pointer moved. -/
  | move
  /-- The last pointer of a stream left the surface. -/
  | up
  /-- A pointer left while others stay. -/
  | pointerUp
  /-- The host aborted the stream. -/
  | cancel
  deriving DecidableEq, Repr

/-- What a contact can do. -/
inductive Motion
  | land
  | move
  | lift
  deriving DecidableEq, Repr

namespace Kind

def all : List Kind := [.down, .pointerDown, .move, .up, .pointerUp, .cancel]

def name : Kind → String
  | .down => "Down"
  | .pointerDown => "PointerDown"
  | .move => "Move"
  | .up => "Up"
  | .pointerUp => "PointerUp"
  | .cancel => "Cancel"

/-- The motion of the contact, unless the whole stream is aborted. -/
def motion? : Kind → Option Motion
  | .down | .pointerDown => some .land
  | .move => some .move
  | .up | .pointerUp => some .lift
  | .cancel => none

/-- Whether a pointer landed. -/
def isDown (k : Kind) : Bool := k.motion? = some .land

/-- Whether a pointer lifted. -/
def isUp (k : Kind) : Bool := k.motion? = some .lift

/-- Whether no pointer of the stream is left. -/
def endsStream (k : Kind) : Bool := k = .up || k = .cancel

theorem isDown_iff {k : Kind} : k.isDown = true ↔ k = .down ∨ k = .pointerDown := by
  cases k <;> decide

theorem motion?_eq_none_iff {k : Kind} : k.motion? = none ↔ k = .cancel := by
  cases k <;> decide

end Kind
end Touch

/-- One pointer action. -/
structure Touch where
  kind : Touch.Kind
  contact : Contact
  deriving DecidableEq

namespace Touch

def pointer (t : Touch) : PointerId := t.contact.pointer

def time (t : Touch) : Time := t.contact.time

def position (t : Touch) : Point := t.contact.position

end Touch
end ExitGesture
