import ExitGesture.Proofs.Units

/-!
# One

A value is not changed by one as a factor, whatever the value is.  A finite value other than zero,
divided by itself, is one: no rounding is left to do.  Whole numbers below `2 ^ 32` are such values,
even those that are rounded.
-/

namespace ExitGesture
namespace Rounding

open Float.Model Float.Model.UnpackedFloat

variable {x z : Float32} {n : Nat}

/-- What is worked out to be a value, and kept, is that value. -/
theorem eq_of_pack (packed : z.toModel = Float32.Model.pack x.toModel.unpack) : z = x := by
  refine Float32.toBits_inj.1 (UInt32.toBitVec_inj.1 ?_)
  show z.toModel.toBits.toBitVec = x.toModel.toBits.toBitVec
  rw [packed]
  exact pack_unpack_of_valid x.toModel.valid

/-! ### Factors -/

theorem ofBits_one : Float32.ofBits 0x3f800000 = 1 := by decide +kernel

theorem unpack_one :
    (1 : Float32).toModel.unpack = .finite .positive (2 ^ 23) (-23) (by decide) := by
  rw [← ofBits_one]
  rfl

theorem mul_positive (s : Sign) : s * .positive = s := by
  cases s <;> rfl

theorem mul_one (x : Float32) : x * 1 = x := by
  have product : UnpackedFloat.mul .binary32 x.toModel.unpack (1 : Float32).toModel.unpack =
      x.toModel.unpack := by
    rw [unpack_one]
    cases unpacked : x.toModel.unpack with
    | notANumber => rfl
    | infinity s => exact congrArg UnpackedFloat.infinity (mul_positive s)
    | zero s => exact congrArg UnpackedFloat.zero (mul_positive s)
    | finite s m e pos =>
        show roundWithAccuracy .binary32 (s * .positive) (m * 2 ^ 23) (e - (23 : Nat)) .exact = _
        rw [mul_positive]
        exact roundWithAccuracy_of_canonical s pos (canonical_of_unpack unpacked).1 23
  exact eq_of_pack (congrArg Float32.Model.pack product)

/-! ### Quotients -/

theorem div_self_unpacked (s : Sign) {m : Nat} (e : Int) (pos : 0 < m) :
    UnpackedFloat.div .binary32 (.finite s m e pos) (.finite s m e pos) =
      .finite .positive (2 ^ 23) (-23) (by decide) := by
  have sign : s / s = .positive := by cases s <;> rfl
  have least : Format.binary32.targetExponent 0 = -24 := by decide
  have quotient : m <<< 24 / m = 2 ^ 23 * 2 ^ 1 := by
    rw [Nat.shiftLeft_eq, Nat.mul_div_cancel_left _ pos]
    rfl
  have rest : m <<< 24 % m = 0 := by
    rw [Nat.shiftLeft_eq, Nat.mul_mod_right]
  have low : (0 - min 0 (-24) : Int).toNat = 24 := by decide
  simp only [UnpackedFloat.div, divCore, sign, Int.sub_self, least, low, quotient, rest]
  have canonical : Canonical (2 ^ 23) (-23) := ⟨by decide, by decide, Or.inl (Nat.le_refl _)⟩
  have one := roundWithAccuracy_of_canonical .positive (Nat.two_pow_pos 23) canonical 1
  have exponent : (-23 : Int) - (1 : Nat) = min 0 (-24) := by decide
  rw [exponent] at one
  exact one

theorem div_self (finite : x.isFinite = true) (some : unitsOf x ≠ 0) : x / x = 1 := by
  have finite : x.toModel.unpack.isFinite = true := finite
  have some : units x.toModel.unpack ≠ 0 := some
  have quotient : UnpackedFloat.div .binary32 x.toModel.unpack x.toModel.unpack =
      (1 : Float32).toModel.unpack := by
    rw [unpack_one]
    generalize x.toModel.unpack = u at finite some ⊢
    cases u with
    | notANumber => cases finite
    | infinity s => cases finite
    | zero s => exact absurd rfl some
    | finite s m e pos => exact div_self_unpacked s e pos
  exact eq_of_pack (congrArg Float32.Model.pack quotient)

/-! ### Whole numbers -/

/-- A small whole number is converted as a machine word, and multiplied by one. -/
theorem toModel_ofNat_of_lt (small : n < 2 ^ 23) :
    (Float32.ofNat n).toModel =
      Float32.Model.pack (UnpackedFloat.normalize .binary32 n 0 .positive) := by
  have fast : n < 2 ^ 23 ∧ 0 ≤ 10 := ⟨small, Nat.zero_le _⟩
  have fits : n.toUInt64.toNat = n := Nat.mod_eq_of_lt (Nat.lt_trans small (by decide))
  have converted : Float32.ofNat n = n.toUInt64.toFloat32 * Float32.ofBits 0x3f800000 := by
    show Float32.ofScientific n false 0 = _
    unfold Float32.ofScientific
    rw [dif_pos fast]
    rfl
  rw [converted, ofBits_one, mul_one]
  show Float32.Model.pack (UnpackedFloat.normalize .binary32 n.toUInt64.toNat 0 .positive) = _
  rw [fits]

/-- A large whole number is given 24 more bits, and rounded. -/
theorem toModel_ofNat_of_le (large : 2 ^ 23 ≤ n) :
    (Float32.ofNat n).toModel =
      Float32.Model.pack (roundWithAccuracy .binary32 .positive (n * 2 ^ 24) (-24) .exact) := by
  have slow : ¬(n < 2 ^ 23 ∧ 0 ≤ 10) := by omega
  have pos : n ≠ 0 := by omega
  have bits : Format.binary32.mantissaBits = 24 := rfl
  show (Float32.ofScientific n false 0).toModel = _
  unfold Float32.ofScientific
  rw [dif_neg slow]
  show Float32.Model.pack (UnpackedFloat.ofScientific .binary32 n 0) = _
  have not_huge : ¬(0 : Int) > 2 ^ Format.binary32.exponentBits := by decide
  have not_tiny : ¬(0 : Int) < -((2 ^ Format.binary32.exponentBits : Int) + n.log2) := by
    show ¬(0 : Int) < -(2 ^ 8 + n.log2)
    omega
  rw [UnpackedFloat.ofScientific, dif_neg pos, if_neg not_huge, if_neg not_tiny,
    if_pos (Int.le_refl 0), ← Nat.shiftLeft_eq]
  have whole : n <<< 24 * 10 ^ (0 : Int).toNat = n <<< 24 := Nat.mul_one _
  have exponent : -(24 : Nat) + 0 = (-24 : Int) := by decide
  simp only [UnpackedFloat.mul, bits, whole, exponent]
  rfl

/-- A whole number is worked out with all its units, and rounded. -/
theorem exists_toModel_ofNat (n : Nat) :
    ∃ u, (Float32.ofNat n).toModel = Float32.Model.pack u ∧ Kept u ∧
      units u = rounded (n * (2 ^ 149 : Nat)) := by
  by_cases small : n < 2 ^ 23
  · obtain ⟨kept, all⟩ := units_normalize n (by decide : (-149 : Int) ≤ 0)
    exact ⟨_, toModel_ofNat_of_lt small, kept, all⟩
  · have large : 2 ^ 23 ≤ n := Nat.le_of_not_lt small
    have pos : 0 < n := Nat.lt_of_lt_of_le (by decide) large
    have le : -24 ≤ target (n * 2 ^ 24) (-24) := by
      rw [target_eq, log2_mul_two_pow pos]
      omega
    have low : (-149 : Int) ≤ -24 := by decide
    have whole : n * 2 ^ 24 * 2 ^ (-24 + 149 : Int).toNat = n * 2 ^ 149 := by
      rw [Nat.mul_assoc, ← Nat.pow_add]
      rfl
    obtain ⟨kept, all⟩ := units_round .positive (Nat.mul_pos pos (Nat.two_pow_pos 24)) low
    rw [round_of_le _ le] at kept all
    rw [whole, Nat.cast_mul] at all
    exact ⟨_, toModel_ofNat_of_le large, kept, all⟩

theorem unitsOf_ofNat (fits : n < 2 ^ 32) :
    (Float32.ofNat n).isFinite = true ∧
      unitsOf (Float32.ofNat n) = rounded (n * (2 ^ 149 : Nat)) := by
  obtain ⟨u, packed, kept, all⟩ := exists_toModel_ofNat n
  have yields := yields_of_pack packed kept
  have size : ((n : Int) * (2 ^ 149 : Nat)).natAbs = n * 2 ^ 149 := by
    rw [Int.natAbs_mul, Int.natAbs_natCast, Int.natAbs_natCast]
  have few : (units u).natAbs < ceiling := by
    have most : n * 2 ^ 149 ≤ 2 ^ 32 * 2 ^ 149 := Nat.mul_le_mul_right _ (Nat.le_of_lt fits)
    have twice := natAbs_rounded_le (n * (2 ^ 149 : Nat))
    have room : 2 * (2 ^ 32 * 2 ^ 149) < ceiling := by decide
    rw [size] at twice
    rw [all]
    exact Nat.lt_of_le_of_lt (Nat.le_trans twice (Nat.mul_le_mul_left 2 most)) room
  have finite := yields.isFinite_iff.2 few
  exact ⟨finite, (yields.units finite).trans all⟩

theorem ofNat_div_self (pos : 0 < n) (fits : n < 2 ^ 32) :
    Float32.ofNat n / Float32.ofNat n = 1 := by
  obtain ⟨finite, all⟩ := unitsOf_ofNat fits
  refine div_self finite ?_
  rw [all]
  refine rounded_ne_zero (Int.mul_ne_zero ?_ ?_)
  · omega
  · exact Int.natCast_ne_zero.2 (Nat.ne_of_gt (Nat.two_pow_pos 149))

end Rounding
end ExitGesture
