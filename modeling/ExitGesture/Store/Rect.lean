import ExitGesture.Plane.Rect
import ExitGesture.Store.Basic

/-!
# Rectangles in a store

A stored rectangle has a field for each of its edges, and none may be missing.
-/

namespace ExitGesture
namespace Rect

/-- A stored edge. -/
inductive Edge
  | left
  | top
  | right
  | bottom
  deriving DecidableEq, Repr

namespace Edge

def all : List Edge := [.left, .top, .right, .bottom]

def name : Edge → String
  | .left => "left"
  | .top => "top"
  | .right => "right"
  | .bottom => "bottom"

theorem mem_all (e : Edge) : e ∈ all := by
  cases e <;> decide

theorem name_inj {e e' : Edge} (same : e.name = e'.name) : e = e' := by
  revert same
  cases e <;> cases e' <;> decide

end Edge

abbrev layout : Layout where
  Field := Edge
  fields := Edge.all
  name := Edge.name
  kind := fun _ => .number
  mem_fields := Edge.mem_all
  nodup_fields := by decide
  name_inj := Edge.name_inj

def record (r : Rect) : layout.Record
  | .left => r.left
  | .top => r.top
  | .right => r.right
  | .bottom => r.bottom

def ofRecord (edges : layout.Record) : Rect where
  left := edges .left
  top := edges .top
  right := edges .right
  bottom := edges .bottom

def encode (S : Store) (r : Rect) : S.Value := S.encode layout r.record

def decode (S : Store) (v : S.Value) : Option Rect := (S.decode layout none v).map ofRecord

end Rect
end ExitGesture
