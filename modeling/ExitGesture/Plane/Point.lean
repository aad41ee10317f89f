/-!
# Points

A point of the input surface, in pixels, and the distance of two points.  Coordinates are single
precision and every operation rounds, so distances are those of the arithmetic and not of the
plane: a coordinate that is not a number makes the distance not a number, and far points may be
infinitely far apart.
-/

namespace ExitGesture

/-- A position in pixels. -/
structure Point where
  x : Float32
  y : Float32
  deriving DecidableEq

namespace Point

/-- The top-left corner of the surface. -/
def origin : Point := ⟨0, 0⟩

/-- Euclidean distance, each operation rounded. -/
def distance (a b : Point) : Float32 :=
  let dx := a.x - b.x
  let dy := a.y - b.y
  (dx * dx + dy * dy).sqrt

end Point
end ExitGesture
