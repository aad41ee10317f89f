import ExitGesture.Surface
import ExitGesture.Touch

/-!
# What a tracker sees

Trackers decide from the configuration in force, the surface measured for it, and the header region
as it is at that moment.
-/

namespace ExitGesture

/-- The fixed inputs of one decision. -/
structure View where
  config : Config
  surface : Surface
  /-- The header region now. -/
  header : Rect

/-- Whether a distance is beyond the drift tolerance.  A distance that is not a number is not. -/
def View.strays (v : View) (distance : Float32) : Bool :=
  v.config.driftTolerance < distance

end ExitGesture
