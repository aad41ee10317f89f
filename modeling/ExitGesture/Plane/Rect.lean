import ExitGesture.Plane.Point
import ExitGesture.Decimal.Format

/-!
# Rectangles

An axis-aligned rectangle contains its left and top edges and not its right and bottom ones, so
two rectangles that share an edge never share a point.
-/

namespace ExitGesture

/-- An axis-aligned rectangle given by its edges. -/
structure Rect where
  left : Float32
  top : Float32
  right : Float32
  bottom : Float32
  deriving DecidableEq

namespace Rect

/-- The rectangle without area at the origin. -/
def zero : Rect := ⟨0, 0, 0, 0⟩

def width (r : Rect) : Float32 := r.right - r.left

def height (r : Rect) : Float32 := r.bottom - r.top

/-- Whether the rectangle lacks area.  An edge that is not a number leaves none. -/
def isEmpty (r : Rect) : Bool :=
  !(r.left < r.right && r.top < r.bottom)

def contains (r : Rect) (p : Point) : Bool :=
  r.left ≤ p.x && p.x < r.right && r.top ≤ p.y && p.y < r.bottom

theorem contains_iff {r : Rect} {p : Point} :
    r.contains p = true ↔
      ((r.left ≤ p.x ∧ p.x < r.right) ∧ r.top ≤ p.y) ∧ p.y < r.bottom := by
  simp [contains]

theorem isEmpty_eq_false_iff {r : Rect} :
    r.isEmpty = false ↔ r.left < r.right ∧ r.top < r.bottom := by
  simp [isEmpty]

def text (r : Rect) : String :=
  let number := Decimal.Format.pointed.write
  "Rect \x7b left: " ++ number r.left ++ ", top: " ++ number r.top ++
    ", right: " ++ number r.right ++ ", bottom: " ++ number r.bottom ++ " \x7d"

end Rect
end ExitGesture
