import ExitGesture.Proofs.Distance

/-!
# Distances do not depend on direction

Rounding looks at the magnitude of a value and leaves its sign alone.  A difference taken the other
way round therefore has the same magnitude, whatever was rounded away, and a square forgets the
sign.  The zeros of a difference need care: a number less itself is the positive zero both ways, and
not a zero and its opposite.
-/

namespace ExitGesture
namespace Rounding

open Float.Model Float.Model.UnpackedFloat

/-! ### Rounding -/

theorem abs_roundWithAccuracy (s : Sign) (m : Nat) (e : Int) (a : Accuracy) :
    (roundWithAccuracy .binary32 s m e a).abs = roundWithAccuracy .binary32 .positive m e a := by
  unfold roundWithAccuracy
  dsimp only
  split_ifs <;> rfl

/-- Opposite integers are rounded to the same magnitude. -/
theorem abs_normalize_neg (n e : Int) :
    (UnpackedFloat.normalize .binary32 (-n) e .positive).abs =
      (UnpackedFloat.normalize .binary32 n e .positive).abs := by
  have round_abs (s : Sign) (m : Nat) : (UnpackedFloat.round .binary32 s m e).abs =
      UnpackedFloat.round .binary32 .positive m e :=
    abs_roundWithAccuracy s _ _ _
  rcases Int.lt_trichotomy n 0 with below | rfl | above
  · have opposite : 0 < -n := by omega
    simp only [UnpackedFloat.normalize, Int.compare_eq_lt.2 below, Int.compare_eq_gt.2 opposite,
      round_abs]
  · rfl
  · have opposite : -n < 0 := by omega
    simp only [UnpackedFloat.normalize, Int.compare_eq_gt.2 above, Int.compare_eq_lt.2 opposite,
      round_abs, Int.neg_neg]

/-! ### Packing -/

theorem abs_unpack_packComponents (s : Sign) (x : BitVec 8) (y : BitVec 23) :
    (UnpackedFloat.unpack .binary32 (packComponents .binary32 s x y)).abs =
      (UnpackedFloat.unpack .binary32 (packComponents .binary32 .positive x y)).abs := by
  simp only [UnpackedFloat.unpack, unpackExponent_packComponents, unpackMantissa_packComponents,
    unpackSign_packComponents, Sign.ofBitVec_toBitVec, ones_eq]
  split_ifs <;> simp only [UnpackedFloat.abs]

/-- The magnitude of a value that is kept depends on its magnitude alone. -/
theorem abs_unpack_pack (u : UnpackedFloat) :
    (Float32.Model.pack u).unpack.abs = (Float32.Model.pack u.abs).unpack.abs := by
  cases u with
  | notANumber => rfl
  | infinity s => exact abs_unpack_packComponents s _ _
  | zero s => exact abs_unpack_packComponents s _ _
  | finite s m e pos =>
      show (UnpackedFloat.unpack .binary32 (UnpackedFloat.pack .binary32 (.finite s m e pos))).abs =
        (UnpackedFloat.unpack .binary32
          (UnpackedFloat.pack .binary32 (.finite .positive m e pos))).abs
      simp only [UnpackedFloat.pack, packedInfinity]
      split_ifs <;> exact abs_unpack_packComponents s _ _

/-! ### Steps -/

theorem abs_sub_swap (u w : UnpackedFloat) :
    (UnpackedFloat.sub .binary32 u w).abs = (UnpackedFloat.sub .binary32 w u).abs := by
  cases u with
  | notANumber => cases w <;> rfl
  | infinity s =>
      cases w with
      | infinity s' => cases s <;> cases s' <;> rfl
      | notANumber => rfl
      | zero s' => rfl
      | finite s' m e pos => rfl
  | zero s =>
      cases w with
      | zero s' => cases s <;> cases s' <;> rfl
      | infinity s' => rfl
      | notANumber => rfl
      | finite s' m e pos => rfl
  | finite s m e pos =>
      cases w with
      | infinity s' => rfl
      | notANumber => rfl
      | zero s' => rfl
      | finite s' m' e' pos' =>
          -- at the smaller exponent one difference of integers is the opposite of the other
          simp only [UnpackedFloat.sub, Int.min_comm e' e]
          rw [← abs_normalize_neg, Int.neg_sub]

theorem mul_self_abs (u : UnpackedFloat) :
    UnpackedFloat.mul .binary32 u.abs u.abs = UnpackedFloat.mul .binary32 u u := by
  cases u with
  | notANumber => rfl
  | infinity s => cases s <;> rfl
  | zero s => cases s <;> rfl
  | finite s m e pos => cases s <;> rfl

/-- A number less itself is the positive zero. -/
theorem sub_self_unpacked (u : UnpackedFloat) :
    UnpackedFloat.sub .binary32 u u = .zero .positive ∨
      UnpackedFloat.sub .binary32 u u = .notANumber := by
  cases u with
  | notANumber => exact Or.inr rfl
  | infinity s => cases s <;> exact Or.inr rfl
  | zero s => cases s <;> exact Or.inl rfl
  | finite s m e pos =>
      left
      simp [UnpackedFloat.sub, UnpackedFloat.normalize]

/-! ### Steps of kept values -/

section Kept

variable {x y : Float32}

theorem mul_self_of_abs_eq (same : x.toModel.unpack.abs = y.toModel.unpack.abs) :
    x * x = y * y := by
  have squares : UnpackedFloat.mul .binary32 x.toModel.unpack x.toModel.unpack =
      UnpackedFloat.mul .binary32 y.toModel.unpack y.toModel.unpack := by
    rw [← mul_self_abs, same, mul_self_abs]
  exact congrArg (fun u => Float32.ofModel (Float32.Model.pack u)) squares

/-- The square of a difference is that of the opposite difference. -/
theorem square_sub_swap (x y : Float32) : (x - y) * (x - y) = (y - x) * (y - x) := by
  refine mul_self_of_abs_eq ?_
  calc (x - y).toModel.unpack.abs
      = (Float32.Model.pack
          (UnpackedFloat.sub .binary32 x.toModel.unpack y.toModel.unpack).abs).unpack.abs :=
        abs_unpack_pack _
    _ = (Float32.Model.pack
          (UnpackedFloat.sub .binary32 y.toModel.unpack x.toModel.unpack).abs).unpack.abs := by
        rw [abs_sub_swap]
    _ = (y - x).toModel.unpack.abs := (abs_unpack_pack _).symm

/-- A value less itself is zero, or no number. -/
theorem sub_self_cases (x : Float32) : x - x = 0 ∨ (x - x).isNaN = true := by
  have kept (u : UnpackedFloat)
      (eq : UnpackedFloat.sub .binary32 x.toModel.unpack x.toModel.unpack = u) :
      x - x = Float32.ofModel (Float32.Model.pack u) :=
    congrArg (fun u => Float32.ofModel (Float32.Model.pack u)) eq
  rcases sub_self_unpacked x.toModel.unpack with zero | nothing
  · left
    rw [kept _ zero]
    decide +kernel
  · right
    rw [kept _ nothing]
    decide +kernel

end Kept

end Rounding

/-! ### Distances -/

namespace Point

open Rounding

/-- The distance of two places is the same both ways, down to the last bit and where there is
none. -/
theorem distance_comm (a b : Point) : a.distance b = b.distance a := by
  simp only [distance, square_sub_swap a.x b.x, square_sub_swap a.y b.y]

/-- A place is at no distance from itself, or has none. -/
theorem distance_self_cases (a : Point) : a.distance a = 0 ∨ (a.distance a).isNaN = true := by
  rw [distance, isNaN_root_iff]
  rcases sub_self_cases a.x with at_x | no_x
  · rcases sub_self_cases a.y with at_y | no_y
    · left
      rw [at_x, at_y]
      decide +kernel
    · exact Or.inr (Or.inr no_y)
  · exact Or.inr (Or.inl no_x)

end Point
end ExitGesture
