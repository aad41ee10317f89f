/-!
# The exit gestures

Four gestures leave the locked screen.  Two of them pair two pointers, the others follow one.  A
host stores a gesture as a small integer; an integer that no gesture has stands for the default one.
-/

namespace ExitGesture

/-- An exit gesture. -/
inductive Gesture
  /-- Two pointers in opposite corners, held. -/
  | oppositeCornersHold
  /-- Two pointers inside the header region, held. -/
  | twoFingerHeaderHold
  /-- One pointer pressed long, dragged to an edge, held. -/
  | singleFingerEdgeDragHold
  /-- Three quick taps in one spot. -/
  | tripleTapDebug
  deriving DecidableEq, Repr

namespace Gesture

instance : Inhabited Gesture := ⟨.singleFingerEdgeDragHold⟩

def all : List Gesture :=
  [.oppositeCornersHold, .twoFingerHeaderHold, .singleFingerEdgeDragHold, .tripleTapDebug]

/-- The integer that a host stores. -/
def code : Gesture → Int32
  | .oppositeCornersHold => 0
  | .twoFingerHeaderHold => 1
  | .singleFingerEdgeDragHold => 2
  | .tripleTapDebug => 3

def ofCode (n : Int32) : Gesture :=
  (all.find? (·.code = n)).getD default

def name : Gesture → String
  | .oppositeCornersHold => "OppositeCornersHold"
  | .twoFingerHeaderHold => "TwoFingerHeaderHold"
  | .singleFingerEdgeDragHold => "SingleFingerEdgeDragHold"
  | .tripleTapDebug => "TripleTapDebug"

/-- The label on a settings screen. -/
def title : Gesture → String
  | .oppositeCornersHold => "Opposite corners hold (strict)"
  | .twoFingerHeaderHold => "Two-finger header hold"
  | .singleFingerEdgeDragHold => "Single-finger edge drag hold (easier)"
  | .tripleTapDebug => "Triple tap (debug)"

/-- Whether the gesture takes two pointers at once. -/
def pairsPointers : Gesture → Bool
  | .oppositeCornersHold | .twoFingerHeaderHold => true
  | .singleFingerEdgeDragHold | .tripleTapDebug => false

/-- How many pointers may be down. -/
def maxPointers (g : Gesture) : Nat :=
  if g.pairsPointers then 2 else 1

end Gesture
end ExitGesture
