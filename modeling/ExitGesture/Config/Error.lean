import ExitGesture.Plane.Rect

/-!
# Configuration errors

Touches never fail; only building or reloading a configuration does.  An error names its cause,
`message` is the one place where causes are worded, and `isRecoverable` separates bad settings,
which a host can replace, from a surface that it cannot.
-/

namespace ExitGesture

/-- A duration that a gesture waits for. -/
inductive Gate
  | hold
  | pairing
  | tap
  | longPress
  deriving DecidableEq, Repr

/-- What a message calls a duration. -/
def Gate.label : Gate → String
  | .hold => "hold duration"
  | .pairing => "pointer pair timeout"
  | .tap => "tap timeout"
  | .longPress => "long press duration"

/-- A number that a gesture measures against. -/
inductive Threshold
  | cornerSize
  | driftTolerance
  | edgeTolerance
  | pairDistanceRatio
  deriving DecidableEq, Repr

/-- What a message calls a number. -/
def Threshold.label : Threshold → String
  | .cornerSize => "corner size"
  | .driftTolerance => "drift tolerance"
  | .edgeTolerance => "edge tolerance"
  | .pairDistanceRatio => "pair distance ratio"

/-- Why a configuration cannot be used. -/
inductive ConfigError
  /-- The display density is not a positive number. -/
  | invalidDensity (density : Float32)
  /-- The surface has no pixels. -/
  | emptyScreen (width height : UInt32)
  /-- A duration that a gesture waits for is zero. -/
  | zeroDuration (gate : Gate)
  /-- A number is outside its range. -/
  | invalidThreshold (threshold : Threshold) (value : Float32)
  /-- The header gesture has no header to land in. -/
  | emptyHeader (header : Rect)
  /-- An attempt is being tracked. -/
  | gestureInProgress
  deriving DecidableEq

namespace ConfigError

def message : ConfigError → String
  | .invalidDensity density => "invalid display density: " ++ Decimal.Format.plain.write density
  | .emptyScreen width height =>
      "empty screen: " ++ width.toNat.repr ++ "x" ++ height.toNat.repr ++ " px"
  | .zeroDuration gate => gate.label ++ " must be non-zero"
  | .invalidThreshold threshold value =>
      "invalid " ++ threshold.label ++ ": " ++ Decimal.Format.plain.write value
  | .emptyHeader header => "header region is empty: " ++ header.text
  | .gestureInProgress => "cannot reload configuration while a gesture is in progress"

/-- Whether other settings, or another moment, can cure the error on the same display. -/
def isRecoverable : ConfigError → Bool
  | .zeroDuration _ | .invalidThreshold _ _ | .gestureInProgress => true
  | .invalidDensity _ | .emptyScreen _ _ | .emptyHeader _ => false

end ConfigError
end ExitGesture
