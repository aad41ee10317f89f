import ExitGesture.Proofs.Rounding

/-!
# Distances that are no numbers

A distance is the root of a sum of squares, every step rounded.  What is no number has no sign, and
everything else has one.  Squares are never negative, and neither is their sum, so that no step but
the first makes a new value that is no number: infinity has no distance from itself.

**Results.**
* `not_lt_iff`: what is not beyond a bound is within it, or no number.
* `Point.isNaN_distance_iff`: which places have no distance.
-/

namespace ExitGesture
namespace Rounding

open Float.Model Float.Model.UnpackedFloat

def sign? : UnpackedFloat → Option Sign
  | .infinity s | .zero s | .finite s _ _ _ => some s
  | .notANumber => none

theorem sign?_eq_none_iff {u : UnpackedFloat} : sign? u = none ↔ u.isNaN = true := by
  cases u <;> simp [sign?, UnpackedFloat.isNaN]

/-! ### Rounding -/

theorem sign?_unpack_packComponents (s : Sign) (x : BitVec 8) (y : BitVec 23)
    (number : x = 255#8 → y = 0#23) :
    sign? (UnpackedFloat.unpack .binary32 (packComponents .binary32 s x y)) = some s := by
  simp only [UnpackedFloat.unpack, unpackExponent_packComponents, unpackMantissa_packComponents,
    unpackSign_packComponents, Sign.ofBitVec_toBitVec, ones_eq]
  split_ifs with top none_left
  · rfl
  · exact absurd (number top) none_left
  · rfl
  · rfl
  · rfl

/-- A value that is kept keeps its sign. -/
theorem sign?_pack (u : UnpackedFloat) : sign? (Float32.Model.pack u).unpack = sign? u := by
  cases u with
  | notANumber => exact congrArg sign? (@unpack_packedNaN .binary32)
  | infinity s => exact sign?_unpack_packComponents s _ 0 fun _ => rfl
  | zero s => exact sign?_unpack_packComponents s 0 0 fun _ => rfl
  | finite s m e pos =>
      obtain ⟨x, y, packed, _, number⟩ := exists_pack_finite s e pos
      have fields : (Float32.Model.pack (.finite s m e pos)).unpack =
          UnpackedFloat.unpack .binary32 (packComponents .binary32 s x y) :=
        congrArg (UnpackedFloat.unpack .binary32) packed
      rw [fields, sign?_unpack_packComponents s x y number]
      rfl

theorem sign?_roundWithAccuracy (s : Sign) (m : Nat) (e : Int) (a : Accuracy) :
    sign? (roundWithAccuracy .binary32 s m e a) = some s := by
  unfold roundWithAccuracy
  dsimp only
  split_ifs <;> rfl

theorem sign?_round (s : Sign) (m : Nat) (e : Int) :
    sign? (UnpackedFloat.round .binary32 s m e) = some s :=
  sign?_roundWithAccuracy _ _ _ _

theorem sign?_normalize (n e : Int) :
    sign? (UnpackedFloat.normalize .binary32 n e .positive) =
      some (if n < 0 then .negative else .positive) := by
  unfold UnpackedFloat.normalize
  split
  · next below => rw [sign?_round, if_pos (Int.compare_eq_lt.1 below)]
  · next zero => simp [sign?, Int.compare_eq_eq.1 zero]
  · next above =>
      have above := Int.compare_eq_gt.1 above
      rw [sign?_round, if_neg (by omega)]

/-! ### Steps -/

section Steps

variable {u w : UnpackedFloat}

/-- A difference has no sign if a part has none, or both are the same infinity. -/
theorem sign?_sub_eq_none_iff : sign? (UnpackedFloat.sub .binary32 u w) = none ↔
    sign? u = none ∨ sign? w = none ∨ ∃ s, u = .infinity s ∧ w = .infinity s := by
  have below : (Sign.negative == -Sign.positive) = true := rfl
  have above : (Sign.positive == -Sign.negative) = true := rfl
  cases u with
  | notANumber => cases w <;> exact iff_of_true rfl (Or.inl rfl)
  | infinity s =>
      cases w with
      | notANumber => exact iff_of_true rfl (Or.inr (Or.inl rfl))
      | infinity s' => cases s <;> cases s' <;> simp [sign?, UnpackedFloat.sub, below, above]
      | zero s' => simp [sign?, UnpackedFloat.sub]
      | finite s' m e pos => simp [sign?, UnpackedFloat.sub]
  | zero s =>
      cases w with
      | notANumber => exact iff_of_true rfl (Or.inr (Or.inl rfl))
      | infinity s' => simp [sign?, UnpackedFloat.sub]
      | zero s' => cases s <;> cases s' <;> simp [sign?, UnpackedFloat.sub, below, above]
      | finite s' m e pos => simp [sign?, UnpackedFloat.sub]
  | finite s m e pos =>
      cases w with
      | notANumber => exact iff_of_true rfl (Or.inr (Or.inl rfl))
      | infinity s' => simp [sign?, UnpackedFloat.sub]
      | zero s' => simp [sign?, UnpackedFloat.sub]
      | finite s' m' e' pos' =>
          simp only [UnpackedFloat.sub, sign?_normalize]
          simp [sign?]

theorem mul_self_sign (s : Sign) : s * s = .positive := by
  cases s <;> rfl

/-- A square is not negative. -/
theorem sign?_mul_self (u : UnpackedFloat) :
    sign? (UnpackedFloat.mul .binary32 u u) = (sign? u).map fun _ => .positive := by
  cases u with
  | notANumber => rfl
  | infinity s => exact congrArg some (mul_self_sign s)
  | zero s => exact congrArg some (mul_self_sign s)
  | finite s m e pos =>
      simp only [UnpackedFloat.mul, mul_self_sign, sign?_roundWithAccuracy]
      rfl

/-- The sum of two values that are not negative is not negative. -/
theorem sign?_add (plus_u : sign? u ≠ some .negative) (plus_w : sign? w ≠ some .negative) :
    sign? (UnpackedFloat.add .binary32 u w) = (sign? u).bind fun _ => sign? w := by
  have only (s : Sign) (plus : some s ≠ some Sign.negative) : s = .positive := by
    cases s with
    | negative => exact absurd rfl plus
    | positive => rfl
  cases u with
  | notANumber => rfl
  | infinity s =>
      obtain rfl := only s plus_u
      cases w with
      | notANumber => rfl
      | infinity s' =>
          obtain rfl := only s' plus_w
          rfl
      | zero s' =>
          obtain rfl := only s' plus_w
          rfl
      | finite s' m' e' pos' =>
          obtain rfl := only s' plus_w
          rfl
  | zero s =>
      obtain rfl := only s plus_u
      cases w with
      | notANumber => rfl
      | infinity s' => rfl
      | zero s' =>
          obtain rfl := only s' plus_w
          rfl
      | finite s' m' e' pos' => rfl
  | finite s m e pos =>
      obtain rfl := only s plus_u
      cases w with
      | notANumber => rfl
      | infinity s' => rfl
      | zero s' =>
          obtain rfl := only s' plus_w
          rfl
      | finite s' m' e' pos' =>
          obtain rfl := only s' plus_w
          simp only [UnpackedFloat.add, sign?_normalize, Sign.apply]
          rw [if_neg (by omega)]
          rfl

theorem sign?_sqrt (plus : sign? u ≠ some .negative) :
    sign? (UnpackedFloat.sqrt .binary32 u) = sign? u := by
  cases u with
  | notANumber => rfl
  | infinity s =>
      cases s with
      | negative => exact absurd rfl plus
      | positive => rfl
  | zero s => rfl
  | finite s m e pos =>
      cases s with
      | negative => exact absurd rfl plus
      | positive => exact sign?_roundWithAccuracy _ _ _ _

end Steps

/-! ### Bounds -/

theorem compare_eq_none_iff {u w : UnpackedFloat} :
    u.compare w = none ↔ u.isNaN = true ∨ w.isNaN = true := by
  fun_cases UnpackedFloat.compare u w <;> simp_all [UnpackedFloat.isNaN]

theorem compare_swap (u w : UnpackedFloat) : w.compare u = (u.compare w).map Ordering.swap := by
  have signs (s s' : Sign) : compare s' s = (compare s s').swap := by
    cases s <;> cases s' <;> rfl
  have exponents (e e' : Int) : compare e' e = (compare e e').swap := (Int.compare_swap e e').symm
  have mantissas (m m' : Nat) : compare m' m = (compare m m').swap := (Nat.compare_swap m m').symm
  cases u with
  | notANumber => cases w <;> rfl
  | infinity s =>
      cases w with
      | notANumber => cases s <;> rfl
      | infinity s' => exact congrArg some (signs s s')
      | zero s' => cases s <;> rfl
      | finite s' m' e' pos' => cases s <;> cases s' <;> rfl
  | zero s =>
      cases w with
      | notANumber => rfl
      | infinity s' => cases s' <;> rfl
      | zero s' => rfl
      | finite s' m' e' pos' => cases s' <;> rfl
  | finite s m e pos =>
      cases w with
      | notANumber => cases s <;> rfl
      | infinity s' => cases s <;> cases s' <;> rfl
      | zero s' => cases s <;> rfl
      | finite s' m' e' pos' =>
          cases s <;> cases s' <;> simp [UnpackedFloat.compare, exponents e e', mantissas m m',
            Ordering.swap_then]

section Bounds

variable {bound x : Float32}

theorem lt_iff_compare :
    bound < x ↔ bound.toModel.unpack.compare x.toModel.unpack = some .lt :=
  decide_eq_true_iff.trans beq_iff_eq

theorem le_iff_compare :
    x ≤ bound ↔ (bound.toModel.unpack.compare x.toModel.unpack).any (·.isGE) = true := by
  have within : x ≤ bound ↔
      (x.toModel.unpack.compare bound.toModel.unpack).any (·.isLE) = true :=
    decide_eq_true_iff
  rw [within, compare_swap bound.toModel.unpack]
  cases bound.toModel.unpack.compare x.toModel.unpack with
  | none => rfl
  | some o => cases o <;> exact Iff.rfl

/-- What is not beyond a bound is within it, or no number. -/
theorem not_lt_iff (number : bound.isNaN = false) : ¬ bound < x ↔ x ≤ bound ∨ x.isNaN = true := by
  have nothing : bound.toModel.unpack.compare x.toModel.unpack = none ↔ x.isNaN = true :=
    compare_eq_none_iff.trans (or_iff_right (Bool.eq_false_iff.1 number))
  rw [lt_iff_compare, le_iff_compare, ← nothing]
  cases bound.toModel.unpack.compare x.toModel.unpack with
  | none => simp
  | some o => cases o <;> simp

theorem not_lt_of_le (within : x ≤ bound) : ¬ bound < x := by
  rw [le_iff_compare] at within
  rw [lt_iff_compare]
  intro beyond
  simp [beyond] at within

theorem not_le_of_isNaN (nothing : x.isNaN = true) : ¬ x ≤ bound := by
  rw [le_iff_compare, compare_eq_none_iff.2 (Or.inr nothing)]
  simp

end Bounds

/-! ### Steps of kept values -/

section Kept

variable {x y : Float32}

theorem isNaN_iff_sign? : x.isNaN = true ↔ sign? x.toModel.unpack = none :=
  sign?_eq_none_iff.symm

/-- What is finite is a number. -/
theorem isNaN_of_isFinite (finite : x.isFinite = true) : x.isNaN = false := by
  have finite : x.toModel.unpack.isFinite = true := finite
  show x.toModel.unpack.isNaN = false
  generalize x.toModel.unpack = u at finite
  cases u with
  | notANumber => cases finite
  | infinity s => rfl
  | zero s => rfl
  | finite s m e pos => rfl

theorem eq_of_unpack_eq (same : x.toModel.unpack = y.toModel.unpack) : x = y :=
  Float32.toBits_inj.1 (UInt32.toBitVec_inj.1
    ((unpack_inj_of_valid x.toModel.valid y.toModel.valid).1 same))

/-- Two values are the same infinity. -/
theorem exists_infinity_iff :
    (∃ s, x.toModel.unpack = .infinity s ∧ y.toModel.unpack = .infinity s) ↔
      x.isInf = true ∧ x = y := by
  constructor
  · rintro ⟨s, at_x, at_y⟩
    have infinite : x.toModel.unpack.isInf = true := by rw [at_x]; rfl
    exact ⟨infinite, eq_of_unpack_eq (at_x.trans at_y.symm)⟩
  · rintro ⟨infinite, rfl⟩
    have infinite : x.toModel.unpack.isInf = true := infinite
    cases at_x : x.toModel.unpack with
    | infinity s => exact ⟨s, rfl, rfl⟩
    | notANumber => simp [at_x, UnpackedFloat.isInf] at infinite
    | zero s => simp [at_x, UnpackedFloat.isInf] at infinite
    | finite s m e pos => simp [at_x, UnpackedFloat.isInf] at infinite

/-- Two values have no difference: one is no number, or both are the same infinity. -/
def NoDifference (x y : Float32) : Prop :=
  x.isNaN = true ∨ y.isNaN = true ∨ x.isInf = true ∧ x = y

instance (x y : Float32) : Decidable (NoDifference x y) := inferInstanceAs (Decidable (_ ∨ _))

theorem isNaN_sub_iff : (x - y).isNaN = true ↔ NoDifference x y := by
  have step : sign? (x - y).toModel.unpack =
      sign? (UnpackedFloat.sub .binary32 x.toModel.unpack y.toModel.unpack) :=
    sign?_pack _
  rw [isNaN_iff_sign?, step, sign?_sub_eq_none_iff, exists_infinity_iff, ← isNaN_iff_sign?,
    ← isNaN_iff_sign?]
  rfl

theorem sign?_square (x : Float32) :
    sign? (x * x).toModel.unpack = (sign? x.toModel.unpack).map fun _ => .positive :=
  (sign?_pack _).trans (sign?_mul_self _)

theorem square_not_negative (x : Float32) : sign? (x * x).toModel.unpack ≠ some .negative := by
  rw [sign?_square]
  cases sign? x.toModel.unpack <;> simp

theorem sign?_sum_of_squares (x y : Float32) : sign? (x * x + y * y).toModel.unpack =
    (sign? (x * x).toModel.unpack).bind fun _ => sign? (y * y).toModel.unpack :=
  (sign?_pack _).trans (sign?_add (square_not_negative x) (square_not_negative y))

/-- The root of a sum of squares is no number exactly if one of the parts is none. -/
theorem isNaN_root_iff :
    (x * x + y * y).sqrt.isNaN = true ↔ x.isNaN = true ∨ y.isNaN = true := by
  have plus : sign? (x * x + y * y).toModel.unpack ≠ some .negative := by
    rw [sign?_sum_of_squares]
    cases sign? (x * x).toModel.unpack with
    | none => simp
    | some s => exact square_not_negative y
  have root : sign? (x * x + y * y).sqrt.toModel.unpack = sign? (x * x + y * y).toModel.unpack :=
    (sign?_pack _).trans (sign?_sqrt plus)
  rw [isNaN_iff_sign?, isNaN_iff_sign?, isNaN_iff_sign?, root, sign?_sum_of_squares, sign?_square,
    sign?_square]
  cases sign? x.toModel.unpack <;> simp

end Kept

end Rounding

/-! ### Distances -/

open Rounding

/-- Two places have no distance. -/
def Point.Unmeasured (a b : Point) : Prop := NoDifference a.x b.x ∨ NoDifference a.y b.y

instance (a b : Point) : Decidable (a.Unmeasured b) := inferInstanceAs (Decidable (_ ∨ _))

/-- A distance is no number exactly if a difference of coordinates is none. -/
theorem Point.isNaN_distance_iff {a b : Point} :
    (a.distance b).isNaN = true ↔ a.Unmeasured b := by
  rw [distance, isNaN_root_iff, isNaN_sub_iff, isNaN_sub_iff]
  rfl

end ExitGesture
