import ExitGesture.Proofs.Distance

/-!
# The order of values

Numbers are compared by their sign first, then by exponent, then by mantissa, and the two zeros are
equal.  Three whole numbers in that order of importance say the same, so that the comparison is
transitive because theirs is.  What is no number compares with nothing.
-/

namespace ExitGesture
namespace Rounding

open Float.Model Float.Model.UnpackedFloat

/-- Which part of the line a value lies in. -/
def rank : UnpackedFloat → Int
  | .infinity .negative => -2
  | .finite .negative _ _ _ => -1
  | .notANumber | .zero _ => 0
  | .finite .positive _ _ _ => 1
  | .infinity .positive => 2

/-- The exponent of a value, signed as the value. -/
def scale : UnpackedFloat → Int
  | .finite .negative _ e _ => -e
  | .finite .positive _ e _ => e
  | .notANumber | .zero _ | .infinity _ => 0

/-- The mantissa of a value, signed as the value. -/
def mantissa : UnpackedFloat → Int
  | .finite .negative m _ _ => -m
  | .finite .positive m _ _ => m
  | .notANumber | .zero _ | .infinity _ => 0

/-- The order of two numbers. -/
def order : UnpackedFloat → UnpackedFloat → Ordering :=
  compareLex (compareOn rank) (compareLex (compareOn scale) (compareOn mantissa))

instance : Std.TransCmp order :=
  inferInstanceAs (Std.TransCmp (compareLex _ _))

theorem compare_neg (a b : Int) : compare (-a) (-b) = (compare a b).swap := by
  have reversed : StrictAnti fun n : Int => -n := fun _ _ => Int.neg_lt_neg
  rw [← cmp_eq_compare, ← cmp_eq_compare, cmp_swap]
  exact reversed.cmp_map_eq a b

theorem compare_natCast (m n : Nat) : compare (m : Int) (n : Int) = compare m n := by
  have kept : StrictMono fun n : Nat => (n : Int) := fun _ _ => Int.ofNat_lt.2
  rw [← cmp_eq_compare, ← cmp_eq_compare]
  exact kept.cmp_map_eq m n

theorem compare_eq_order {u w : UnpackedFloat} (at_u : u.isNaN = false) (at_w : w.isNaN = false) :
    u.compare w = some (order u w) := by
  cases u with
  | notANumber => cases at_u
  | infinity s =>
      cases w with
      | notANumber => cases at_w
      | infinity s' => cases s <;> cases s' <;> rfl
      | zero s' => cases s <;> rfl
      | finite s' m' e' pos' => cases s <;> cases s' <;> rfl
  | zero s =>
      cases w with
      | notANumber => cases at_w
      | infinity s' => cases s' <;> rfl
      | zero s' => rfl
      | finite s' m' e' pos' => cases s' <;> rfl
  | finite s m e pos =>
      cases w with
      | notANumber => cases at_w
      | infinity s' => cases s <;> cases s' <;> rfl
      | zero s' => cases s <;> rfl
      | finite s' m' e' pos' =>
          cases s with
          | negative =>
              cases s' with
              | negative =>
                  simp [UnpackedFloat.compare, order, compareLex, compareOn, rank, scale, mantissa,
                    Ordering.swap_then, compare_neg, compare_natCast]
              | positive => rfl
          | positive =>
              cases s' with
              | negative => rfl
              | positive =>
                  simp [UnpackedFloat.compare, order, compareLex, compareOn, rank, scale, mantissa,
                    compare_natCast]

theorem le_iff_order {u w : UnpackedFloat} :
    u.le w = true ↔ (u.isNaN = false ∧ w.isNaN = false) ∧ (order u w).isLE = true := by
  by_cases nothing : u.isNaN = true ∨ w.isNaN = true
  · have apart : ¬ (u.isNaN = false ∧ w.isNaN = false) := fun numbers =>
      nothing.elim (Bool.eq_false_iff.1 numbers.1) (Bool.eq_false_iff.1 numbers.2)
    simp only [UnpackedFloat.le, compare_eq_none_iff.2 nothing, Option.any_none,
      Bool.false_eq_true, apart, false_and]
  · obtain ⟨at_u, at_w⟩ := not_or.1 nothing
    rw [Bool.not_eq_true] at at_u at_w
    simp only [UnpackedFloat.le, compare_eq_order at_u at_w, Option.any_some, at_u, at_w,
      and_self, true_and]

theorem compare_eq_lt_iff_order {u w : UnpackedFloat} :
    u.compare w = some .lt ↔ (u.isNaN = false ∧ w.isNaN = false) ∧ order u w = .lt := by
  by_cases nothing : u.isNaN = true ∨ w.isNaN = true
  · have apart : ¬ (u.isNaN = false ∧ w.isNaN = false) := fun numbers =>
      nothing.elim (Bool.eq_false_iff.1 numbers.1) (Bool.eq_false_iff.1 numbers.2)
    simp only [compare_eq_none_iff.2 nothing, apart, false_and, reduceCtorEq]
  · obtain ⟨at_u, at_w⟩ := not_or.1 nothing
    rw [Bool.not_eq_true] at at_u at_w
    simp only [compare_eq_order at_u at_w, at_u, at_w, Option.some.injEq, and_self, true_and]

/-! ### Kept values -/

section Kept

variable {x y z : Float32}

theorem le_iff : x ≤ y ↔ (x.isNaN = false ∧ y.isNaN = false) ∧
    (order x.toModel.unpack y.toModel.unpack).isLE = true :=
  decide_eq_true_iff.trans le_iff_order

theorem lt_iff : x < y ↔ (x.isNaN = false ∧ y.isNaN = false) ∧
    order x.toModel.unpack y.toModel.unpack = .lt :=
  lt_iff_compare.trans compare_eq_lt_iff_order

theorem le_self (number : x.isNaN = false) : x ≤ x :=
  le_iff.2 ⟨⟨number, number⟩, Std.ReflCmp.isLE_rfl⟩

theorem le_trans (below : x ≤ y) (above : y ≤ z) : x ≤ z := by
  obtain ⟨⟨at_x, _⟩, first⟩ := le_iff.1 below
  obtain ⟨⟨_, at_z⟩, second⟩ := le_iff.1 above
  exact le_iff.2 ⟨⟨at_x, at_z⟩, Std.TransCmp.isLE_trans first second⟩

theorem lt_of_le_of_lt (below : x ≤ y) (above : y < z) : x < z := by
  obtain ⟨⟨at_x, _⟩, first⟩ := le_iff.1 below
  obtain ⟨⟨_, at_z⟩, second⟩ := lt_iff.1 above
  exact lt_iff.2 ⟨⟨at_x, at_z⟩, Std.TransCmp.lt_of_isLE_of_lt first second⟩

theorem lt_of_lt_of_le (below : x < y) (above : y ≤ z) : x < z := by
  obtain ⟨⟨at_x, _⟩, first⟩ := lt_iff.1 below
  obtain ⟨⟨_, at_z⟩, second⟩ := le_iff.1 above
  exact lt_iff.2 ⟨⟨at_x, at_z⟩, Std.TransCmp.lt_of_lt_of_isLE first second⟩

/-- Any two numbers compare. -/
theorem lt_or_le (at_x : x.isNaN = false) (at_y : y.isNaN = false) : x < y ∨ y ≤ x := by
  by_cases below : x < y
  · exact Or.inl below
  · exact Or.inr (((not_lt_iff at_x).1 below).resolve_right (Bool.eq_false_iff.1 at_y))

end Kept

end Rounding
end ExitGesture
