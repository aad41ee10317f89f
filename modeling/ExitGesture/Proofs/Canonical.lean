import ExitGesture.Proofs.Distance

/-!
# Kept numbers

A finite number is kept in one form: with a mantissa of 24 bits, or with the smallest exponent.
Rounding leads to that form, and a number in that form is kept as it is unless its exponent is too
large.

**Rounding.**  A mantissa that is cut leaves two bits behind: the first bit that was cut, and
whether any later one was set.  They tell on which side of the half the rest lies, so that a cut
mantissa is rounded to the nearest one, and from the half to the even one.
-/

namespace ExitGesture
namespace Rounding

open Float.Model Float.Model.UnpackedFloat

/-! ### Keeping -/

/-- A mantissa and an exponent in the form in which they are kept. -/
structure Canonical (m : Nat) (e : Int) : Prop where
  narrow : m < 2 ^ 24
  low : -149 ≤ e
  full : 2 ^ 23 ≤ m ∨ e = -149

theorem target_of_canonical {m : Nat} {e : Int} (pos : 0 < m) (canonical : Canonical m e) :
    target m e = e := by
  have narrow : m.log2 < 24 := (Nat.log2_lt (Nat.ne_of_gt pos)).2 canonical.narrow
  have low := canonical.low
  rw [target_eq]
  rcases canonical.full with full | least
  · have wide : 23 ≤ m.log2 := (Nat.le_log2 (Nat.ne_of_gt pos)).2 full
    omega
  · omega

/-- The bit in front of the mantissa field. -/
theorem toNat_leading (y : BitVec 23) : (1#1 ++ y).toNat = 2 ^ 23 + y.toNat := by
  rw [BitVec.toNat_append, ← Nat.shiftLeft_add_eq_or_of_lt y.isLt]
  rfl

section Fields

variable {x : BitVec 8} {y : BitVec 23}

theorem exponentBias_eq : (Format.binary32.exponentBias : Int) = 127 := rfl

theorem unpack_normal (s : Sign) (y : BitVec 23) (some_top : x ≠ 0#8) (below_top : x ≠ 255#8) :
    ∃ pos, UnpackedFloat.unpack .binary32 (packComponents .binary32 s x y) =
      .finite s (2 ^ 23 + y.toNat) (x.toNat - 150) pos := by
  refine ⟨by positivity, ?_⟩
  simp only [UnpackedFloat.unpack, unpackExponent_packComponents, unpackMantissa_packComponents,
    unpackSign_packComponents, Sign.ofBitVec_toBitVec, ones_eq, exponentBias_eq, below_top,
    some_top, ↓reduceIte, toNat_leading]
  rfl

theorem unpack_subnormal (s : Sign) (some_left : y ≠ 0#23) :
    ∃ pos, UnpackedFloat.unpack .binary32 (packComponents .binary32 s 0#8 y) =
      .finite s y.toNat (-149) pos := by
  have some : y.toNat ≠ (0#23).toNat := mt BitVec.eq_of_toNat_eq some_left
  have pos : 0 < y.toNat := Nat.pos_of_ne_zero some
  have below_top : (0#8 : BitVec 8) ≠ 255#8 := by decide
  refine ⟨pos, ?_⟩
  simp only [UnpackedFloat.unpack, unpackExponent_packComponents, unpackMantissa_packComponents,
    unpackSign_packComponents, Sign.ofBitVec_toBitVec, ones_eq, exponentBias_eq, below_top,
    some_left, ↓reduceIte, ↓reduceDIte]
  rfl

end Fields

/-- What is kept is in that form. -/
theorem canonical_of_unpack {x : Float32.Model} {s : Sign} {m : Nat} {e : Int} {pos : 0 < m}
    (unpacked : x.unpack = .finite s m e pos) : Canonical m e ∧ e ≤ 104 := by
  have unpacked : UnpackedFloat.unpack .binary32 x.toBits.toBitVec = .finite s m e pos := unpacked
  simp only [UnpackedFloat.unpack, ones_eq, exponentBias_eq] at unpacked
  have top_lt : (@unpackExponent .binary32 x.toBits.toBitVec).toNat < 2 ^ 8 :=
    BitVec.isLt _
  have rest_lt : (@unpackMantissa .binary32 x.toBits.toBitVec).toNat < 2 ^ 23 :=
    BitVec.isLt _
  split_ifs at unpacked with infinite number least zero
  · obtain ⟨-, rfl, rfl⟩ := UnpackedFloat.finite.inj unpacked
    have no_top := congrArg BitVec.toNat least
    simp only [BitVec.toNat_ofNat, Nat.zero_mod] at no_top
    exact ⟨⟨by omega, by omega, Or.inr (by omega)⟩, by omega⟩
  · obtain ⟨-, rfl, rfl⟩ := UnpackedFloat.finite.inj unpacked
    have some_top := mt BitVec.eq_of_toNat_eq least
    have below_top := mt BitVec.eq_of_toNat_eq infinite
    simp only [BitVec.toNat_ofNat, Nat.zero_mod] at some_top below_top
    rw [toNat_leading]
    exact ⟨⟨by omega, by omega, Or.inl (by omega)⟩, by omega⟩

/-- What is in that form is kept, if its exponent is small enough. -/
theorem unpack_pack {s : Sign} {m : Nat} {e : Int} {pos : 0 < m} (canonical : Canonical m e)
    (small : e ≤ 104) :
    (Float32.Model.pack (.finite s m e pos)).unpack = .finite s m e pos := by
  obtain ⟨narrow, low, full⟩ := canonical
  show UnpackedFloat.unpack .binary32 (UnpackedFloat.pack .binary32 (.finite s m e pos)) = _
  simp only [UnpackedFloat.pack, biased_eq, packedInfinity]
  split_ifs with high normal
  · have high : 256 ≤ (e + 150).toNat + 1 := high
    omega
  · have normal : m.log2 + 1 = 24 := normal
    have wide : 2 ^ 23 ≤ m := (Nat.le_log2 (Nat.ne_of_gt pos)).1 (by omega)
    have field : (BitVec.ofNat 8 (e + 150).toNat).toNat = (e + 150).toNat := by
      rw [BitVec.toNat_ofNat, Nat.mod_eq_of_lt (by omega)]
    have rest : (BitVec.ofNat 23 m).toNat = m - 2 ^ 23 := by
      rw [BitVec.toNat_ofNat, Nat.mod_eq_sub_mod wide, Nat.mod_eq_of_lt (by omega)]
    have some_top : BitVec.ofNat 8 (e + 150).toNat ≠ 0#8 := by
      refine mt (congrArg BitVec.toNat) ?_
      rw [field, BitVec.toNat_ofNat]
      omega
    have below_top : BitVec.ofNat 8 (e + 150).toNat ≠ 255#8 := by
      refine mt (congrArg BitVec.toNat) ?_
      rw [field, BitVec.toNat_ofNat]
      omega
    obtain ⟨_, unpacked⟩ := unpack_normal s (BitVec.ofNat 23 m) some_top below_top
    rw [unpacked, UnpackedFloat.finite.injEq, field, rest]
    exact ⟨rfl, by omega, by omega⟩
  · have short : m.log2 + 1 ≠ 24 := normal
    have narrower : m < 2 ^ 23 := by
      by_contra wide
      have at_least := (Nat.le_log2 (Nat.ne_of_gt pos)).2 (Nat.not_lt.1 wide)
      have below := (Nat.log2_lt (Nat.ne_of_gt pos)).2 narrow
      omega
    have rest : (BitVec.ofNat 23 m).toNat = m := by
      rw [BitVec.toNat_ofNat, Nat.mod_eq_of_lt narrower]
    have some_left : BitVec.ofNat 23 m ≠ 0#23 := by
      refine mt (congrArg BitVec.toNat) ?_
      rw [rest, BitVec.toNat_ofNat]
      omega
    obtain ⟨_, unpacked⟩ := unpack_subnormal s some_left
    rw [unpacked, UnpackedFloat.finite.injEq, rest]
    exact ⟨rfl, rfl, by omega⟩

/-! ### Quotients -/

/-- A quotient, rounded to the nearest whole number and from the half to the even one. -/
def halfEven (m d : Nat) : Nat :=
  if 2 * (m % d) < d then m / d
  else if 2 * (m % d) = d then m / d + m / d % 2
  else m / d + 1

theorem halfEven_le (m d : Nat) : halfEven m d ≤ m / d + 1 := by
  unfold halfEven
  split_ifs <;> omega

theorem le_halfEven (m d : Nat) : m / d ≤ halfEven m d := by
  unfold halfEven
  split_ifs <;> omega

theorem halfEven_mul_right (m d : Nat) {c : Nat} (pos : 0 < c) :
    halfEven (m * c) (d * c) = halfEven m d := by
  have twice : 2 * (m % d * c) = 2 * (m % d) * c := (Nat.mul_assoc ..).symm
  unfold halfEven
  simp only [Nat.mul_div_mul_right _ _ pos, Nat.mul_mod_mul_right, twice,
    Nat.mul_lt_mul_right pos, Nat.mul_left_inj (Nat.ne_of_gt pos)]

theorem halfEven_mul_self (m : Nat) {d : Nat} (pos : 0 < d) : halfEven (m * d) d = m := by
  unfold halfEven
  rw [Nat.mul_mod_left, Nat.mul_zero, if_pos pos, Nat.mul_div_cancel m pos]

/-- What is rounded to is not farther than half way. -/
theorem halfEven_near (m : Nat) {d : Nat} (pos : 0 < d) :
    2 * m ≤ 2 * (halfEven m d * d) + d ∧ 2 * (halfEven m d * d) ≤ 2 * m + d := by
  have parts : m / d * d + m % d = m := Nat.div_add_mod' m d
  have cut : m % d < d := Nat.mod_lt m pos
  have next : (m / d + 1) * d = m / d * d + d := Nat.add_one_mul ..
  unfold halfEven
  split_ifs with below tie
  · omega
  · have bit : m / d % 2 = 0 ∨ m / d % 2 = 1 := by omega
    rcases bit with even | odd
    · rw [even, Nat.add_zero]
      omega
    · rw [odd, next]
      omega
  · rw [next]
    omega

/-! ### Cutting -/

theorem sticky_iff {p rest : Nat} (cut : rest < p) :
    (p ≤ 2 * rest ∨ 2 * rest % p ≠ 0) ↔ rest ≠ 0 := by
  constructor
  · rintro some_left rfl
    simp at some_left
    omega
  · intro some_left
    by_cases half : p ≤ 2 * rest
    · exact Or.inl half
    · rw [Nat.mod_eq_of_lt (Nat.lt_of_not_le half)]
      omega

/-- A cut leaves the bit of the half, and whether the rest is more. -/
theorem shift_exact (m k : Nat) :
    ExtendedMantissa.ofMantissaAndAccuracy m .exact >>> k =
      ⟨m / 2 ^ k, decide (2 ^ k ≤ 2 * (m % 2 ^ k)), decide (2 * (m % 2 ^ k) % 2 ^ k ≠ 0)⟩ := by
  show k.repeat ExtendedMantissa.shiftRightOne _ = _
  induction k with
  | zero => simp [Nat.repeat, ExtendedMantissa.ofMantissaAndAccuracy, Nat.mod_one]
  | succ k ih =>
      show (k.repeat ExtendedMantissa.shiftRightOne _).shiftRightOne = _
      have cut : m % 2 ^ k < 2 ^ k := Nat.mod_lt _ (Nat.two_pow_pos k)
      have bit : m / 2 ^ k % 2 < 2 := Nat.mod_lt _ (by decide)
      rw [ih, Nat.pow_succ, Nat.mod_mul, ← Nat.div_div_eq_div_mul]
      generalize 2 ^ k = p at cut bit ⊢
      generalize m % p = rest at cut ⊢
      have least : 2 * (rest + p * (m / p % 2)) % (p * 2) = 2 * rest := by
        rw [Nat.mul_add, ← Nat.mul_assoc, Nat.mul_comm 2 p, Nat.add_mul_mod_self_left,
          Nat.mod_eq_of_lt (by omega)]
      simp only [ExtendedMantissa.shiftRightOne, least]
      congr 1
      · rw [Bool.eq_iff_iff]
        interval_cases m / p % 2 <;> simp <;> omega
      · rw [Bool.eq_iff_iff, Bool.or_eq_true, decide_eq_true_iff, decide_eq_true_iff,
          sticky_iff cut, decide_eq_true_iff]
        omega

theorem roundedMantissa_shift (m k : Nat) :
    (ExtendedMantissa.ofMantissaAndAccuracy m .exact >>> k).roundedMantissa =
      halfEven m (2 ^ k) := by
  have cut : m % 2 ^ k < 2 ^ k := Nat.mod_lt _ (Nat.two_pow_pos k)
  rw [shift_exact]
  generalize 2 ^ k = p at cut ⊢
  unfold halfEven
  generalize m % p = rest at cut ⊢
  by_cases small : 2 * rest < p
  · have half : decide (p ≤ 2 * rest) = false := decide_eq_false (by omega)
    rw [if_pos small, half]
    cases decide (2 * rest % p ≠ 0) <;> rfl
  · have half : decide (p ≤ 2 * rest) = true := decide_eq_true (by omega)
    have beyond : 2 * rest % p = 2 * rest - p := by
      rw [Nat.mod_eq_sub_mod (by omega), Nat.mod_eq_of_lt (by omega)]
    rw [if_neg small, half, beyond]
    by_cases tie : 2 * rest = p
    · have none_left : decide (2 * rest - p ≠ 0) = false := decide_eq_false (by omega)
      rw [if_pos tie, none_left]
      rfl
    · have some_left : decide (2 * rest - p ≠ 0) = true := decide_eq_true (by omega)
      rw [if_neg tie, some_left]
      rfl

/-! ### Rounding -/

theorem log2_mul_two_pow {m : Nat} (pos : 0 < m) (k : Nat) : (m * 2 ^ k).log2 = m.log2 + k := by
  have some : m * 2 ^ k ≠ 0 := Nat.ne_of_gt (Nat.mul_pos pos (Nat.two_pow_pos k))
  rw [Nat.log2_eq_iff some]
  have low := Nat.log2_self_le (Nat.ne_of_gt pos)
  have high : m < 2 ^ (m.log2 + 1) := Nat.lt_log2_self
  constructor
  · rw [Nat.pow_add]
    exact Nat.mul_le_mul_right _ low
  · rw [Nat.add_right_comm, Nat.pow_add]
    exact Nat.mul_lt_mul_of_pos_right high (Nat.two_pow_pos k)

/-- A rounded mantissa of at most 24 bits.  With a carry into a 25th it goes to the next
exponent. -/
def settle (s : Sign) (r : Nat) (e : Int) : UnpackedFloat :=
  if none : r = 0 then .zero s
  else if r = 2 ^ 24 then .finite s (2 ^ 23) (e + 1) (by decide)
  else .finite s r e (Nat.pos_of_ne_zero none)

/-- After a mantissa has been rounded only a carry is cut. -/
theorem settle_eq (s : Sign) {r : Nat} {e : Int} (narrow : r ≤ 2 ^ 24) (low : -149 ≤ e) :
    (if none : (shiftToTargetExponent .binary32 r e .exact).1.mantissa = 0 then .zero s
      else .finite s (shiftToTargetExponent .binary32 r e .exact).1.mantissa
        (shiftToTargetExponent .binary32 r e .exact).2 (Nat.pos_of_ne_zero none)) =
      settle s r e := by
  have at_target := target_eq r e
  obtain ⟨cut, moved⟩ := shiftToTargetExponent_eq r e
  generalize shiftToTargetExponent .binary32 r e .exact = second at cut moved ⊢
  obtain ⟨em, e'⟩ := second
  simp only at cut moved ⊢
  unfold settle
  by_cases carry : r = 2 ^ 24
  · subst carry
    have wide : (2 ^ 24 : Nat).log2 = 24 := Nat.log2_two_pow
    have once : (target (2 ^ 24) e - e).toNat = 1 := by omega
    rw [once] at cut moved
    have half : em.mantissa = 2 ^ 23 := cut.trans (by decide)
    simp [half, moved]
  · have wide : r.log2 ≤ 23 := by
      by_cases zero : r = 0
      · simp [zero]
      · exact Nat.le_of_lt_succ ((Nat.log2_lt zero).2 (Nat.lt_of_le_of_ne narrow carry))
    have uncut : (target r e - e).toNat = 0 := by omega
    rw [uncut] at cut moved
    have whole : em.mantissa = r := cut.trans (by simp)
    simp only [whole, moved, carry, Nat.cast_zero, add_zero, ↓reduceIte]

/-- Rounding, if the exponent is not above its target. -/
theorem roundWithAccuracy_exact (s : Sign) {m : Nat} {e : Int} (le : e ≤ target m e) :
    roundWithAccuracy .binary32 s m e .exact =
      settle s (halfEven m (2 ^ (target m e - e).toNat)) (target m e) := by
  have at_target := target_eq m e
  have narrow : halfEven m (2 ^ (target m e - e).toNat) ≤ 2 ^ 24 :=
    Nat.le_trans (halfEven_le ..) (div_lt_of_log2_le (by omega))
  have arrived : e + (target m e - e).toNat = target m e := by omega
  rw [← settle_eq s narrow (by omega)]
  unfold roundWithAccuracy
  rw [shiftToTargetExponent_exact]
  simp only [roundedMantissa_shift, arrived]

theorem decreaseExponent_eq (m : Nat) {e e' : Int} (le : e' ≤ e) :
    decreaseExponent m e e' = (m * 2 ^ (e - e').toNat, e') := by
  have arrived : e - (e - e').toNat = e' := by omega
  simp only [decreaseExponent, Nat.shiftLeft_eq, arrived]

theorem decreaseExponent_of_le (m : Nat) {e e' : Int} (le : e ≤ e') :
    decreaseExponent m e e' = (m, e) := by
  have none : (e - e').toNat = 0 := by omega
  simp [decreaseExponent, none]

/-- An exponent that is not above its target is rounded as it is. -/
theorem round_of_le (s : Sign) {m : Nat} {e : Int} (le : e ≤ target m e) :
    UnpackedFloat.round .binary32 s m e = roundWithAccuracy .binary32 s m e .exact := by
  unfold UnpackedFloat.round
  rw [targetExponent_eq]
  dsimp only
  rw [decreaseExponent_of_le m le]

theorem settle_of_canonical (s : Sign) {m : Nat} {e : Int} (pos : 0 < m)
    (canonical : Canonical m e) : settle s m e = .finite s m e pos := by
  rw [settle, dif_neg (Nat.ne_of_gt pos), if_neg (Nat.ne_of_lt canonical.narrow)]

/-- A mantissa that has only zeros to lose loses nothing. -/
theorem roundWithAccuracy_of_canonical (s : Sign) {m : Nat} {e : Int} (pos : 0 < m)
    (canonical : Canonical m e) (k : Nat) :
    roundWithAccuracy .binary32 s (m * 2 ^ k) (e - k) .exact = .finite s m e pos := by
  have total := target_eq (m * 2 ^ k) (e - k)
  have at_target := target_of_canonical pos canonical
  rw [target_eq] at at_target
  rw [log2_mul_two_pow pos] at total
  have arrived : target (m * 2 ^ k) (e - k) = e := by omega
  have bits : (e - (e - k)).toNat = k := by omega
  rw [roundWithAccuracy_exact s (by omega), arrived, bits, halfEven_mul_self m (Nat.two_pow_pos k),
    settle_of_canonical s pos canonical]

end Rounding
end ExitGesture
