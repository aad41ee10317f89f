import ExitGesture.Plane.Point
import Mathlib

/-!
# Products of positive numbers

A product is rounded: its mantissa is cut to 24 bits, and what that leaves is cut once more if the
rounding has carried into a 25th.  How large the product is shows in its total exponent, the place
of its leading bit.  A product whose leading bit lies below `2 ^ 127` is finite, one whose leading
bit lies at `2 ^ 128` or above is not, and none is below zero.
-/

namespace ExitGesture
namespace Rounding

open Float.Model Float.Model.UnpackedFloat

/-! ### Rounding -/

theorem mantissa_shift (em : ExtendedMantissa) (k : Nat) :
    (em >>> k).mantissa = em.mantissa / 2 ^ k := by
  show (k.repeat ExtendedMantissa.shiftRightOne em).mantissa = _
  induction k with
  | zero => simp [Nat.repeat]
  | succ k ih =>
      show (k.repeat ExtendedMantissa.shiftRightOne em).mantissa / 2 = _
      rw [ih, Nat.div_div_eq_div_mul, Nat.pow_succ]

/-- Rounding goes up by one at most. -/
theorem roundedMantissa_bounds (em : ExtendedMantissa) :
    em.mantissa ≤ em.roundedMantissa ∧ em.roundedMantissa ≤ em.mantissa + 1 := by
  obtain ⟨m, half, more⟩ := em
  cases half <;> cases more <;>
    simp [ExtendedMantissa.roundedMantissa, ExtendedMantissa.accuracy, Accuracy.roundToNearestEven]
  omega

/-- The exponent that a mantissa is cut for. -/
def target (m : Nat) (e : Int) : Int := max (totalExponent m e - 24) (-149)

theorem target_eq (m : Nat) (e : Int) : target m e = max ((m.log2 : Int) + 1 + e - 24) (-149) := rfl

theorem targetExponent_eq (m : Nat) (e : Int) :
    Format.binary32.targetExponent (totalExponent m e) = target m e := by
  simp [Format.targetExponent, Format.mantissaBits, Format.minExponent, target]

theorem shiftToTargetExponent_exact (m : Nat) (e : Int) :
    shiftToTargetExponent .binary32 m e .exact =
      (ExtendedMantissa.ofMantissaAndAccuracy m .exact >>> (target m e - e).toNat,
        e + (target m e - e).toNat) := by
  rw [shiftToTargetExponent, targetExponent_eq]
  rfl

theorem shiftToTargetExponent_eq (m : Nat) (e : Int) :
    let k := (target m e - e).toNat
    (shiftToTargetExponent .binary32 m e .exact).1.mantissa = m / 2 ^ k ∧
      (shiftToTargetExponent .binary32 m e .exact).2 = e + k := by
  rw [shiftToTargetExponent_exact]
  exact ⟨mantissa_shift _ _, rfl⟩

theorem div_lt_of_log2_le {m k : Nat} (narrow : m.log2 ≤ 23 + k) : m / 2 ^ k < 2 ^ 24 := by
  rw [Nat.div_lt_iff_lt_mul (Nat.two_pow_pos k), ← Nat.pow_add]
  exact Nat.lt_of_lt_of_le Nat.lt_log2_self (Nat.pow_le_pow_right (by decide) (by omega))

theorem log2_le_of_le {m k : Nat} (small : m ≤ 2 ^ k) : m.log2 ≤ k := by
  by_cases zero : m = 0
  · simp [zero]
  · have below : m < 2 ^ (k + 1) := by
      rw [Nat.pow_succ]
      omega
    exact Nat.le_of_lt_succ ((Nat.log2_lt zero).2 below)

/-- A mantissa of at least 24 bits is rounded to its target exponent or, with a carry, to the next
one.  Only what is far below the smallest number is rounded to zero. -/
theorem round_cases (s : Sign) {m : Nat} (e : Int) (full : 23 ≤ m.log2) :
    (roundWithAccuracy .binary32 s m e .exact = .zero s ∧ totalExponent m e ≤ -149) ∨
      ∃ m' e' pos, roundWithAccuracy .binary32 s m e .exact = .finite s m' e' pos ∧
        target m e ≤ e' ∧ e' ≤ target m e + 1 := by
  have at_target := target_eq m e
  obtain ⟨cut, moved⟩ := shiftToTargetExponent_eq m e
  unfold roundWithAccuracy
  generalize shiftToTargetExponent .binary32 m e .exact = first at cut moved ⊢
  obtain ⟨em, e₁⟩ := first
  simp only at cut moved ⊢
  have short : em.mantissa < 2 ^ 24 := by
    rw [cut]
    exact div_lt_of_log2_le (by omega)
  obtain ⟨floor_le, le_ceil⟩ := roundedMantissa_bounds em
  generalize em.roundedMantissa = r at floor_le le_ceil ⊢
  -- the second cut takes one bit at most
  have carry : r.log2 ≤ 24 := log2_le_of_le (by omega)
  have at_target' := target_eq r e₁
  have once : (target r e₁ - e₁).toNat ≤ 1 := by omega
  obtain ⟨cut', moved'⟩ := shiftToTargetExponent_eq r e₁
  generalize shiftToTargetExponent .binary32 r e₁ .exact = second at cut' moved' ⊢
  obtain ⟨em', e₂⟩ := second
  simp only at cut' moved' ⊢
  by_cases vanishes : em'.mantissa = 0
  · left
    rw [dif_pos vanishes]
    refine ⟨rfl, ?_⟩
    have lost : r < 2 ^ (target r e₁ - e₁).toNat :=
      (Nat.div_eq_zero_iff_lt (Nat.two_pow_pos _)).1 (cut' ▸ vanishes)
    have none_left : em.mantissa = 0 := by
      interval_cases shift : (target r e₁ - e₁).toNat
      · omega
      · by_contra some_left
        -- a single bit is never cut
        obtain rfl : r = 1 := by omega
        have single : (1 : Nat).log2 = 0 := by decide
        omega
    have small : m < 2 ^ (target m e - e).toNat :=
      (Nat.div_eq_zero_iff_lt (Nat.two_pow_pos _)).1 (cut ▸ none_left)
    have some_bits : m ≠ 0 := by
      rintro rfl
      simp at full
    have short : m.log2 < (target m e - e).toNat := (Nat.log2_lt some_bits).2 small
    show (m.log2 + 1 + e : Int) ≤ -149
    omega
  · right
    rw [dif_neg vanishes]
    exact ⟨em'.mantissa, e₂, Nat.pos_of_ne_zero vanishes, rfl, by omega, by omega⟩

/-! ### Packing -/

/-- The exponent field of what is not finite. -/
theorem ones_eq : (-1#8 : BitVec 8) = 255#8 := by decide

theorem isFinite_unpack_packComponents (s : Sign) (e : BitVec 8) (m : BitVec 23) :
    (UnpackedFloat.unpack .binary32 (packComponents .binary32 s e m)).isFinite =
      decide (e ≠ 255#8) := by
  simp only [UnpackedFloat.unpack, unpackExponent_packComponents, unpackMantissa_packComponents,
    ones_eq]
  split_ifs with top <;> simp_all [UnpackedFloat.isFinite]

theorem zero_le_unpack_packComponents (e : BitVec 8) (m : BitVec 23)
    (number : e = 255#8 → m = 0#23) :
    (UnpackedFloat.zero .positive).le
      (UnpackedFloat.unpack .binary32 (packComponents .binary32 .positive e m)) = true := by
  simp only [UnpackedFloat.unpack, unpackExponent_packComponents, unpackMantissa_packComponents,
    unpackSign_packComponents, Sign.ofBitVec_toBitVec, ones_eq]
  split_ifs with top <;> simp_all [UnpackedFloat.le, UnpackedFloat.compare]

/-- The exponent field of a finite number. -/
theorem biased_eq (e : Int) : e + Format.binary32.exponentBias + (23 : Nat) = e + 150 := by
  show e + 127 + 23 = e + 150
  omega

/-- The fields of a finite number.  An exponent from 105 on is too large to be kept, and nothing is
kept of the mantissa then. -/
theorem exists_pack_finite (s : Sign) {m : Nat} (e : Int) (pos : 0 < m) :
    ∃ (x : BitVec 8) (y : BitVec 23), UnpackedFloat.pack .binary32 (.finite s m e pos) =
      packComponents .binary32 s x y ∧ (x = 255#8 ↔ 105 ≤ e) ∧ (x = 255#8 → y = 0#23) := by
  simp only [UnpackedFloat.pack, biased_eq, packedInfinity]
  split_ifs with high normal
  · have high : 256 ≤ (e + 150).toNat + 1 := high
    exact ⟨_, _, rfl, iff_of_true (by decide) (by omega), fun _ => rfl⟩
  · have low : (e + 150).toNat + 1 < 256 := Nat.lt_of_not_le high
    have below_top : BitVec.ofNat 8 (e + 150).toNat ≠ 255#8 := by
      intro top
      have field := congrArg BitVec.toNat top
      simp at field
      omega
    exact ⟨_, _, rfl, iff_of_false below_top (by omega), fun top => absurd top below_top⟩
  · have low : (e + 150).toNat + 1 < 256 := Nat.lt_of_not_le high
    have below_top : (0#8 : BitVec 8) ≠ 255#8 := by decide
    exact ⟨_, _, rfl, iff_of_false below_top (by omega), fun top => absurd top below_top⟩

theorem isFinite_pack_finite (s : Sign) {m : Nat} (e : Int) (pos : 0 < m) :
    (Float32.Model.pack (.finite s m e pos)).isFinite = decide (e < 105) := by
  obtain ⟨x, y, packed, top, _⟩ := exists_pack_finite s e pos
  show (UnpackedFloat.unpack .binary32
    (UnpackedFloat.pack .binary32 (.finite s m e pos))).isFinite = _
  rw [packed, isFinite_unpack_packComponents, decide_eq_decide, Ne, top, Int.not_le]

theorem zero_le_pack_finite {m : Nat} (e : Int) (pos : 0 < m) :
    (UnpackedFloat.zero .positive).le
      (Float32.Model.pack (.finite .positive m e pos)).unpack = true := by
  obtain ⟨x, y, packed, _, number⟩ := exists_pack_finite .positive e pos
  show (UnpackedFloat.zero .positive).le (UnpackedFloat.unpack .binary32
    (UnpackedFloat.pack .binary32 (.finite .positive m e pos))) = true
  rw [packed]
  exact zero_le_unpack_packComponents x y number

/-! ### Products -/

/-- A number is a positive mantissa times a power of two. -/
def IsPos (x : Float32) (m : Nat) (e : Int) : Prop :=
  ∃ pos : 0 < m, x.toModel.unpack = .finite .positive m e pos

theorem exists_isPos {x : Float32} (finite : x.isFinite = true) (pos : 0 < x) :
    ∃ m e, IsPos x m e := by
  have above : (UnpackedFloat.zero .positive).lt x.toModel.unpack = true := of_decide_eq_true pos
  have finite : x.toModel.unpack.isFinite = true := finite
  generalize unpacked : x.toModel.unpack = u at above finite
  cases u with
  | notANumber => cases finite
  | infinity s => cases finite
  | zero s => cases above
  | finite s m e m_pos =>
      cases s with
      | negative => cases above
      | positive => exact ⟨m, e, m_pos, unpacked⟩

variable {a b : Float32} {m n : Nat} {e f : Int}

theorem toModel_mul (at_a : IsPos a m e) (at_b : IsPos b n f) :
    (a * b).toModel =
      Float32.Model.pack (roundWithAccuracy .binary32 .positive (m * n) (e + f) .exact) := by
  obtain ⟨_, unpacked_a⟩ := at_a
  obtain ⟨_, unpacked_b⟩ := at_b
  show Float32.Model.pack (UnpackedFloat.mul .binary32 a.toModel.unpack b.toModel.unpack) = _
  rw [unpacked_a, unpacked_b]
  rfl

theorem log2_le_mul (pos : 0 < n) : m.log2 ≤ (m * n).log2 := by
  by_cases zero : m = 0
  · simp [zero]
  · by_contra less
    have below := (Nat.log2_lt (Nat.mul_ne_zero zero (Nat.ne_of_gt pos))).1 (Nat.lt_of_not_le less)
    have above := Nat.log2_self_le zero
    have grows := Nat.le_mul_of_pos_right m pos
    omega

/-- The product of two positive numbers is not below zero. -/
theorem zero_le_mul (full : 23 ≤ m.log2) (at_a : IsPos a m e) (at_b : IsPos b n f) :
    (0 : Float32) ≤ a * b := by
  refine decide_eq_true ?_
  show (UnpackedFloat.zero .positive).le (a * b).toModel.unpack = true
  rw [toModel_mul at_a at_b]
  have wide := Nat.le_trans full (log2_le_mul (m := m) at_b.choose)
  rcases round_cases .positive (e + f) wide with ⟨rounded, _⟩ | ⟨m', e', pos, rounded, _⟩
  · rw [rounded]
    rfl
  · rw [rounded]
    exact zero_le_pack_finite e' pos

theorem isFinite_mul_of_le (full : 23 ≤ m.log2) (at_a : IsPos a m e) (at_b : IsPos b n f)
    (small : totalExponent (m * n) (e + f) ≤ 127) : (a * b).isFinite = true := by
  show (a * b).toModel.isFinite = true
  rw [toModel_mul at_a at_b]
  have wide := Nat.le_trans full (log2_le_mul (m := m) at_b.choose)
  rcases round_cases .positive (e + f) wide with ⟨rounded, _⟩ | ⟨m', e', pos, rounded, _, le⟩
  · rw [rounded]
    rfl
  · rw [rounded, isFinite_pack_finite]
    simp only [target] at le
    exact decide_eq_true (by omega)

theorem le_of_isFinite_mul (full : 23 ≤ m.log2) (at_a : IsPos a m e) (at_b : IsPos b n f)
    (finite : (a * b).isFinite = true) : totalExponent (m * n) (e + f) ≤ 128 := by
  have finite : (a * b).toModel.isFinite = true := finite
  rw [toModel_mul at_a at_b] at finite
  have wide := Nat.le_trans full (log2_le_mul (m := m) at_b.choose)
  rcases round_cases .positive (e + f) wide with ⟨_, small⟩ | ⟨m', e', pos, rounded, ge, _⟩
  · omega
  · rw [rounded, isFinite_pack_finite] at finite
    have low := of_decide_eq_true finite
    simp only [target] at ge
    omega

end Rounding
end ExitGesture
