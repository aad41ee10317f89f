import ExitGesture.Config.Error
import ExitGesture.Config.Settings

/-!
# Configurations

A configuration is the snapshot in pixels that a recognizer works from.  It is built from stored
settings and a display, or stated directly for a screen.

**Validation.**  Faults are looked for in a fixed order, and the first one found is reported: the
screen, then the four durations, then the three distances, then the pair distance ratio.
-/

namespace ExitGesture

/-- The pixel-space snapshot that a recognizer works from. -/
structure Config where
  gesture : Gesture
  /-- How long a hold lasts. -/
  hold : Duration
  /-- How long the first of two pointers waits for the second. -/
  pairTimeout : Duration
  /-- Longest tap, and longest time from one tap to the next. -/
  tapTimeout : Duration
  /-- How long a press lasts before the drag to the edge may start. -/
  longPress : Duration
  /-- Time between two pulses of a hold. -/
  pulseInterval : Duration
  /-- Side of the corner squares. -/
  cornerSize : Float32
  /-- How far a pointer may stray. -/
  driftTolerance : Float32
  /-- Width of the band along each edge. -/
  edgeTolerance : Float32
  /-- Least distance of a pair in opposite corners, as a part of the diagonal. -/
  pairDistanceRatio : Float32
  screenWidth : UInt32
  screenHeight : UInt32
  /-- Passed on to the host. -/
  requirePin : Bool
  deriving DecidableEq

namespace Config

/-- How long a press lasts before the drag to the edge may start. -/
def standardLongPress : Duration := .ofMillis 500

/-- Time between two pulses of a hold. -/
def standardPulseInterval : Duration := .ofMillis 500

/-- Width of the band along each edge, in density-independent units. -/
def standardEdgeDp : Float32 := 24

/-- Least distance of a pair in opposite corners, as a part of the diagonal. -/
def standardPairDistanceRatio : Float32 := 0.85

/-- The standard thresholds on a screen with one pixel per unit. -/
def forScreen (gesture : Gesture) (width height : UInt32) : Config where
  gesture := gesture
  hold := .ofMillis Settings.standard.holdMillis.toNat
  pairTimeout := .ofMillis Settings.standard.pairTimeoutMillis.toNat
  tapTimeout := .ofMillis Settings.standard.tapTimeoutMillis.toNat
  longPress := standardLongPress
  pulseInterval := standardPulseInterval
  cornerSize := Settings.standard.cornerDp
  driftTolerance := Settings.standard.driftDp
  edgeTolerance := standardEdgeDp
  pairDistanceRatio := standardPairDistanceRatio
  screenWidth := width
  screenHeight := height
  requirePin := false

def duration (c : Config) : Gate → Duration
  | .hold => c.hold
  | .pairing => c.pairTimeout
  | .tap => c.tapTimeout
  | .longPress => c.longPress

def threshold (c : Config) : Threshold → Float32
  | .cornerSize => c.cornerSize
  | .driftTolerance => c.driftTolerance
  | .edgeTolerance => c.edgeTolerance
  | .pairDistanceRatio => c.pairDistanceRatio

/-- A screen without pixels. -/
def screenFault? (c : Config) : Option ConfigError :=
  if c.screenWidth = 0 ∨ c.screenHeight = 0 then
    some (.emptyScreen c.screenWidth c.screenHeight)
  else none

/-- A duration of zero. -/
def gateFault? (c : Config) (g : Gate) : Option ConfigError :=
  if (c.duration g).isZero then some (.zeroDuration g) else none

/-- Whether a number may stand for a threshold: a distance is finite and not negative, a ratio lies
between zero and one. -/
def admits : Threshold → Float32 → Bool
  | .pairDistanceRatio, value => 0 ≤ value && value ≤ 1
  | _, value => value.isFinite && 0 ≤ value

/-- A number outside its range. -/
def thresholdFault? (c : Config) (t : Threshold) : Option ConfigError :=
  if admits t (c.threshold t) then none else some (.invalidThreshold t (c.threshold t))

/-- The first thing that is wrong with a configuration. -/
def fault? (c : Config) : Option ConfigError :=
  c.screenFault?
    <|> [Gate.hold, .pairing, .tap, .longPress].findSome? c.gateFault?
    <|> [Threshold.cornerSize, .driftTolerance, .edgeTolerance, .pairDistanceRatio].findSome?
          c.thresholdFault?

/-- Accept a configuration that has no fault. -/
def validate (c : Config) : Except ConfigError Unit :=
  match c.fault? with
  | some e => .error e
  | none => .ok ()

theorem validate_eq_ok_iff {c : Config} : c.validate = .ok () ↔ c.fault? = none := by
  unfold validate
  split <;> simp_all

theorem validate_eq_error_iff {c : Config} {e : ConfigError} :
    c.validate = .error e ↔ c.fault? = some e := by
  unfold validate
  split <;> simp_all

/-- The snapshot of stored settings on a display, in pixels. -/
def scaled (s : Settings) (d : Display) : Config where
  gesture := s.gesture
  hold := .ofMillis s.holdMillis.toNat
  pairTimeout := .ofMillis s.pairTimeoutMillis.toNat
  tapTimeout := .ofMillis s.tapTimeoutMillis.toNat
  longPress := standardLongPress
  pulseInterval := standardPulseInterval
  cornerSize := d.pixels s.cornerDp
  driftTolerance := d.pixels s.driftDp
  edgeTolerance := d.pixels standardEdgeDp
  pairDistanceRatio := standardPairDistanceRatio
  screenWidth := d.width
  screenHeight := d.height
  requirePin := s.requirePin

/-- The valid snapshot of stored settings on a display.  A density that is not a positive number is
refused before anything else is looked at. -/
def ofSettings (s : Settings) (d : Display) : Except ConfigError Config :=
  if d.density.isFinite && 0 < d.density then
    (scaled s d).validate.map fun _ => scaled s d
  else .error (.invalidDensity d.density)

end Config
end ExitGesture
