import ExitGesture.Config.Basic

/-!
# The input surface

What the gestures ask of a place on the surface: whether it lies in a corner square, whether two
places are an opposite-corner pair, and whether a place lies in the band along an edge.

A place may lie in both corner squares when they overlap; it then counts as top left.
-/

namespace ExitGesture

/-- A corner that a pair may land in. -/
inductive Corner
  | topLeft
  | bottomRight
  deriving DecidableEq, Repr

def Corner.name : Corner → String
  | .topLeft => "TopLeft"
  | .bottomRight => "BottomRight"

/-- The measures of a surface, in pixels. -/
structure Surface where
  width : Float32
  height : Float32
  cornerSize : Float32
  edgeTolerance : Float32
  /-- How far apart a pair in opposite corners has to be. -/
  minPairDistance : Float32
  deriving DecidableEq

namespace Surface

/-- Length of the diagonal of a `width` by `height` screen. -/
def diagonalOf (width height : Float32) : Float32 :=
  (width * width + height * height).sqrt

/-- The surface that a configuration describes. -/
def ofConfig (c : Config) : Surface :=
  let width := c.screenWidth.toFloat32
  let height := c.screenHeight.toFloat32
  { width := width
    height := height
    cornerSize := c.cornerSize
    edgeTolerance := c.edgeTolerance
    minPairDistance := diagonalOf width height * c.pairDistanceRatio }

def diagonal (s : Surface) : Float32 := diagonalOf s.width s.height

def inTopLeft (s : Surface) (p : Point) : Bool :=
  p.x ≤ s.cornerSize && p.y ≤ s.cornerSize

/-- Whether a place lies in the bottom-right square. -/
def inBottomRight (s : Surface) (p : Point) : Bool :=
  s.width - s.cornerSize ≤ p.x && s.height - s.cornerSize ≤ p.y

/-- The corner that a place counts as. -/
def corner? (s : Surface) (p : Point) : Option Corner :=
  if s.inTopLeft p then some .topLeft
  else if s.inBottomRight p then some .bottomRight
  else none

/-- Whether two places count as opposite corners and are far enough apart. -/
def isOppositePair (s : Surface) (a b : Point) : Bool :=
  let opposite :=
    match s.corner? a, s.corner? b with
    | some .topLeft, some .bottomRight | some .bottomRight, some .topLeft => true
    | _, _ => false
  opposite && s.minPairDistance ≤ a.distance b

/-- Whether a place lies in the band along an edge. -/
def isAtEdge (s : Surface) (p : Point) : Bool :=
  p.x ≤ s.edgeTolerance || s.width - s.edgeTolerance ≤ p.x ||
    p.y ≤ s.edgeTolerance || s.height - s.edgeTolerance ≤ p.y

theorem corner?_eq_topLeft_iff {s : Surface} {p : Point} :
    s.corner? p = some .topLeft ↔ s.inTopLeft p = true := by
  by_cases h : s.inTopLeft p <;> by_cases h' : s.inBottomRight p <;> simp [corner?, h, h']

theorem corner?_eq_bottomRight_iff {s : Surface} {p : Point} :
    s.corner? p = some .bottomRight ↔ s.inTopLeft p = false ∧ s.inBottomRight p = true := by
  by_cases h : s.inTopLeft p <;> by_cases h' : s.inBottomRight p <;> simp [corner?, h, h']

theorem isOppositePair_eq_true_iff {s : Surface} {a b : Point} :
    s.isOppositePair a b = true ↔
      (s.corner? a = some .topLeft ∧ s.corner? b = some .bottomRight ∨
        s.corner? a = some .bottomRight ∧ s.corner? b = some .topLeft) ∧
      s.minPairDistance ≤ a.distance b := by
  unfold isOppositePair
  cases s.corner? a with
  | none =>
      cases s.corner? b with
      | none => simp
      | some corner => cases corner <;> simp
  | some corner =>
      cases s.corner? b with
      | none => cases corner <;> simp
      | some corner' => cases corner <;> cases corner' <;> simp

end Surface
end ExitGesture
