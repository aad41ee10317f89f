import ExitGesture.Touch

/-!
# Fingers on a surface

Which pointers a script has down, and where it left each of them.  The list is kept by ascending
identifier, so it has one form for one set of fingers.
-/

namespace ExitGesture

/-- The pointers that are down, by ascending identifier, with their places. -/
abbrev Fingers := List (PointerId × Point)

namespace Fingers

def position? (fingers : Fingers) (id : PointerId) : Option Point := fingers.lookup id

/-- Put a finger somewhere, whether or not it is down. -/
def place (id : PointerId) (p : Point) : Fingers → Fingers
  | [] => [(id, p)]
  | (other, q) :: rest =>
      if id < other then (id, p) :: (other, q) :: rest
      else if id = other then (id, p) :: rest
      else (other, q) :: place id p rest

def move (id : PointerId) (p : Point) (fingers : Fingers) : Fingers :=
  fingers.map fun (other, q) => (other, if other = id then p else q)

def lift (id : PointerId) (fingers : Fingers) : Fingers :=
  fingers.filter fun (other, _) => other ≠ id

theorem map_fst_move (id : PointerId) (p : Point) (fingers : Fingers) :
    (move id p fingers).map Prod.fst = fingers.map Prod.fst := by
  simp [move, Function.comp_def]

end Fingers
end ExitGesture
