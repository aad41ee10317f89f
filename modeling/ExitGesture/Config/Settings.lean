import ExitGesture.Gesture
import ExitGesture.Duration

/-!
# Stored settings and the display

Settings are what a host keeps between runs: distances in density-independent units and the
gesture as an integer.  A display turns those units into pixels.
-/

namespace ExitGesture

/-- The gesture settings that a host stores. -/
structure Settings where
  gestureCode : Int32
  holdMillis : UInt32
  cornerDp : Float32
  driftDp : Float32
  pairTimeoutMillis : UInt32
  tapTimeoutMillis : UInt32
  requirePin : Bool
  deriving DecidableEq

namespace Settings

/-- The settings of a fresh host. -/
def standard : Settings where
  gestureCode := (default : Gesture).code
  holdMillis := 2500
  cornerDp := 72
  driftDp := 24
  pairTimeoutMillis := 150
  tapTimeoutMillis := 600
  requirePin := false

def gesture (s : Settings) : Gesture := Gesture.ofCode s.gestureCode

end Settings

/-- A display: pixels per density-independent unit, and its size in pixels. -/
structure Display where
  density : Float32
  width : UInt32
  height : UInt32
  deriving DecidableEq

/-- A distance in pixels. -/
def Display.pixels (d : Display) (dp : Float32) : Float32 := dp * d.density

end ExitGesture
