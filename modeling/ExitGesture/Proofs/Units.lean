import ExitGesture.Proofs.Canonical

/-!
# Sums by units

Every finite number is a multiple of the least positive one, `2 ^ -149`, so that it has a whole
number of units.  The sum of two numbers has the sum of their units, rounded to the nearest number
of units that is kept, and so has the difference.  Where that has too many units the result is
infinite.

**Rounding.**  Numbers of at most 24 bits are kept.  Of longer ones only the first 24 bits are, so
that the kept numbers lie farther and farther apart (`spacing`).

**Results.**
* `yields_add`, `yields_sub`: sums and differences of finite values.
* `beq_iff_unitsOf`: finite values are equal if their units are.
-/

namespace ExitGesture
namespace Rounding

open Float.Model Float.Model.UnpackedFloat

/-! ### Whole numbers -/

/-- How far apart the kept numbers are that lie around a number of units. -/
def spacing (n : Int) : Nat := 2 ^ (n.natAbs.log2 - 23)

/-- A number of units, rounded to one that is kept. -/
def rounded (n : Int) : Int := n.sign * (halfEven n.natAbs (spacing n) * spacing n : Nat)

theorem rounded_zero : rounded 0 = 0 := by decide

theorem spacing_pos (n : Int) : 0 < spacing n := Nat.two_pow_pos _

theorem spacing_le {n : Int} (some : n ≠ 0) : spacing n ≤ n.natAbs :=
  Nat.le_trans (Nat.pow_le_pow_right (by decide) (Nat.sub_le _ 23))
    (Nat.log2_self_le (Int.natAbs_ne_zero.2 some))

/-- Rounding moves a number by half a spacing at most. -/
theorem rounded_near (n : Int) : 2 * (rounded n - n).natAbs ≤ spacing n := by
  obtain ⟨low, high⟩ := halfEven_near n.natAbs (spacing_pos n)
  unfold rounded
  generalize halfEven n.natAbs (spacing n) * spacing n = r at low high ⊢
  rcases Int.lt_trichotomy n 0 with below | rfl | above
  · rw [Int.sign_eq_neg_one_of_neg below]
    omega
  · simp
  · rw [Int.sign_eq_one_of_pos above]
    omega

theorem natAbs_rounded_le (n : Int) : (rounded n).natAbs ≤ 2 * n.natAbs := by
  by_cases none : n = 0
  · simp [none, rounded_zero]
  · have near := rounded_near n
    have fine := spacing_le none
    omega

theorem rounded_ne_zero {n : Int} (some : n ≠ 0) : rounded n ≠ 0 := by
  have near := rounded_near n
  have fine := spacing_le some
  omega

/-- A multiple of its spacing is not rounded. -/
theorem rounded_of_dvd {n : Int} (whole : spacing n ∣ n.natAbs) : rounded n = n := by
  obtain ⟨q, eq⟩ := whole
  unfold rounded
  rw [Nat.mul_comm] at eq
  rw [eq, halfEven_mul_self q (spacing_pos n), ← eq, Int.sign_mul_natAbs]

/-- Up to 24 bits with zeros behind them are a multiple of their spacing. -/
theorem spacing_dvd {m : Nat} (k : Nat) (short : m ≤ 2 ^ 24) :
    spacing (m * 2 ^ k : Nat) ∣ m * 2 ^ k := by
  have at_spacing : spacing (m * 2 ^ k : Nat) = 2 ^ ((m * 2 ^ k).log2 - 23) := rfl
  rw [at_spacing]
  rcases Nat.eq_zero_or_pos m with rfl | pos
  · rw [Nat.zero_mul]
    exact Nat.dvd_zero _
  · rw [log2_mul_two_pow pos]
    by_cases carry : m = 2 ^ 24
    · have next : m.log2 + k - 23 = k + 1 := by
        rw [carry, Nat.log2_two_pow]
        omega
      rw [next, carry, ← Nat.pow_add]
      exact Nat.pow_dvd_pow 2 (by omega)
    · have bits : m.log2 < 24 := (Nat.log2_lt (Nat.ne_of_gt pos)).2 (Nat.lt_of_le_of_ne short carry)
      exact Nat.dvd_mul_left_of_dvd (Nat.pow_dvd_pow 2 (by omega)) m

/-- Up to 24 bits with zeros behind them are not rounded. -/
theorem rounded_of_grain {n : Int} (k : Nat) (short : n.natAbs ≤ 2 ^ 24) :
    rounded (n * (2 ^ k : Nat)) = n * (2 ^ k : Nat) := by
  have sized : (n * (2 ^ k : Nat)).natAbs = n.natAbs * 2 ^ k := by
    rw [Int.natAbs_mul, Int.natAbs_natCast]
  have same : spacing (n * (2 ^ k : Nat)) = spacing (n.natAbs * 2 ^ k : Nat) := by
    unfold spacing
    rw [sized, Int.natAbs_natCast]
  apply rounded_of_dvd
  rw [same, sized]
  exact spacing_dvd k short

/-! ### Signs -/

theorem apply_zero (s : Sign) : s.apply 0 = 0 := by
  cases s <;> rfl

theorem natAbs_apply (s : Sign) (n : Nat) : (s.apply n).natAbs = n := by
  cases s <;> simp [Sign.apply]

theorem apply_mul (s : Sign) (n c : Int) : s.apply (n * c) = s.apply n * c := by
  cases s <;> simp [Sign.apply]

theorem rounded_apply (s : Sign) (n : Nat) :
    rounded (s.apply n) =
      s.apply (halfEven n (2 ^ (n.log2 - 23)) * 2 ^ (n.log2 - 23) : Nat) := by
  rcases Nat.eq_zero_or_pos n with rfl | pos
  · cases s <;> decide
  · cases s with
    | negative =>
        have below : (-(n : Int)).sign = -1 := Int.sign_eq_neg_one_of_neg (by omega)
        simp [rounded, spacing, Sign.apply, below]
    | positive =>
        have above : (n : Int).sign = 1 := Int.sign_eq_one_of_pos (by omega)
        simp [rounded, spacing, Sign.apply, above]

/-! ### Units -/

/-- A finite value as a multiple of the least positive number. -/
def units : UnpackedFloat → Int
  | .finite s m e _ => s.apply (m * 2 ^ (e + 149).toNat : Nat)
  | .zero _ | .infinity _ | .notANumber => 0

/-- The least number of units that is too large to be kept. -/
def ceiling : Nat := 2 ^ 24 * 2 ^ 253

/-- A finite value in the form in which it is kept, whether or not its exponent is too large. -/
def Kept : UnpackedFloat → Prop
  | .zero _ => True
  | .finite _ m e _ => Canonical m e
  | .infinity _ | .notANumber => False

theorem kept_cases {u : UnpackedFloat} (kept : Kept u) :
    (∃ s, u = .zero s) ∨ ∃ s m e pos, u = .finite s m e pos ∧ Canonical m e := by
  cases u with
  | notANumber => cases kept
  | infinity s => cases kept
  | zero s => exact Or.inl ⟨s, rfl⟩
  | finite s m e pos => exact Or.inr ⟨s, m, e, pos, rfl, kept⟩

theorem natAbs_units (s : Sign) {m : Nat} (e : Int) (pos : 0 < m) :
    (units (.finite s m e pos)).natAbs = m * 2 ^ (e + 149).toNat :=
  natAbs_apply s _

/-- A rounded mantissa is kept with all its units. -/
theorem units_settle (s : Sign) (r : Nat) {e : Int} (low : -149 ≤ e) :
    units (settle s r e) = s.apply (r * 2 ^ (e + 149).toNat : Nat) := by
  unfold settle
  split_ifs with none carry
  · simp [units, none, apply_zero]
  · have next : (e + 1 + 149).toNat = (e + 149).toNat + 1 := by omega
    show s.apply _ = _
    rw [carry, next, Nat.pow_succ (2 : Nat) (e + 149).toNat, Nat.mul_comm _ 2, ← Nat.mul_assoc]
    rfl
  · rfl

theorem kept_settle (s : Sign) {r : Nat} {e : Int} (narrow : r ≤ 2 ^ 24) (low : -149 ≤ e)
    (full : 2 ^ 23 ≤ r ∨ e = -149) : Kept (settle s r e) := by
  unfold settle
  split_ifs with none carry
  · trivial
  · exact ⟨by decide, by omega, Or.inl (Nat.le_refl _)⟩
  · exact ⟨Nat.lt_of_le_of_ne narrow carry, low, full⟩

/-- The exponent is small enough if there are not too many units. -/
theorem le_iff_units_lt {m : Nat} {e : Int} (canonical : Canonical m e) :
    e ≤ 104 ↔ m * 2 ^ (e + 149).toNat < ceiling := by
  obtain ⟨narrow, low, full⟩ := canonical
  constructor
  · intro small
    have power : 2 ^ (e + 149).toNat ≤ 2 ^ 253 := Nat.pow_le_pow_right (by decide) (by omega)
    calc m * 2 ^ (e + 149).toNat < 2 ^ 24 * 2 ^ (e + 149).toNat :=
          Nat.mul_lt_mul_of_pos_right narrow (Nat.two_pow_pos _)
      _ ≤ ceiling := Nat.mul_le_mul_left _ power
  · intro few
    by_contra large
    have wide : 2 ^ 23 ≤ m := full.resolve_right (by omega)
    have power : 2 ^ 254 ≤ 2 ^ (e + 149).toNat := Nat.pow_le_pow_right (by decide) (by omega)
    have many : 2 ^ 23 * 2 ^ 254 ≤ m * 2 ^ (e + 149).toNat := Nat.mul_le_mul wide power
    rw [Nat.pow_succ 2 253, Nat.mul_comm _ 2, ← Nat.mul_assoc] at many
    exact Nat.not_lt.2 many few

/-- Rounding to a kept number, by units. -/
theorem round_eq (s : Sign) {m : Nat} {e : Int} (pos : 0 < m) (low : -149 ≤ e) {n g : Nat}
    (all : n = m * 2 ^ (e + 149).toNat) (grain : g = n.log2 - 23) :
    UnpackedFloat.round .binary32 s m e = settle s (halfEven n (2 ^ g)) (g - 149) := by
  have at_target := target_eq m e
  have wide : n.log2 = m.log2 + (e + 149).toNat := by rw [all, log2_mul_two_pow pos]
  have arrived : target m e = (g : Int) - 149 := by omega
  by_cases cut : e ≤ target m e
  · have bits : 2 ^ g = 2 ^ (target m e - e).toNat * 2 ^ (e + 149).toNat := by
      rw [← Nat.pow_add]
      congr 1
      omega
    rw [round_of_le s cut, roundWithAccuracy_exact s cut, arrived, all, bits, ← arrived,
      halfEven_mul_right _ _ (Nat.two_pow_pos _)]
  · -- no bit is cut: zeros are put behind the mantissa
    have filled : m * 2 ^ (e - target m e).toNat * 2 ^ g = n := by
      rw [all, Nat.mul_assoc, ← Nat.pow_add]
      congr 2
      omega
    have total := target_eq (m * 2 ^ (e - target m e).toNat) (target m e)
    rw [log2_mul_two_pow pos] at total
    have stays : target (m * 2 ^ (e - target m e).toNat) (target m e) = target m e := by omega
    unfold UnpackedFloat.round
    rw [targetExponent_eq]
    dsimp only
    rw [decreaseExponent_eq m (Int.le_of_not_le cut),
      roundWithAccuracy_exact s (Int.le_of_eq stays.symm), stays, Int.sub_self, ← filled,
      halfEven_mul_self _ (Nat.two_pow_pos g), arrived]
    congr 1
    exact (congrArg (halfEven · 1) (Nat.mul_one _).symm).trans (halfEven_mul_self _ Nat.one_pos)

/-- What is rounded is kept, with all its units. -/
theorem units_round (s : Sign) {m : Nat} {e : Int} (pos : 0 < m) (low : -149 ≤ e) :
    Kept (UnpackedFloat.round .binary32 s m e) ∧
      units (UnpackedFloat.round .binary32 s m e) =
        rounded (s.apply (m * 2 ^ (e + 149).toNat : Nat)) := by
  rw [round_eq s pos low rfl rfl, rounded_apply]
  have some : 0 < m * 2 ^ (e + 149).toNat := Nat.mul_pos pos (Nat.two_pow_pos _)
  generalize m * 2 ^ (e + 149).toNat = n at some ⊢
  have quotient := le_halfEven n (2 ^ (n.log2 - 23))
  have narrow : halfEven n (2 ^ (n.log2 - 23)) ≤ 2 ^ 24 :=
    Nat.le_trans (halfEven_le ..) (div_lt_of_log2_le (by omega))
  have full : 2 ^ 23 ≤ halfEven n (2 ^ (n.log2 - 23)) ∨
      ((n.log2 - 23 : Nat) - 149 : Int) = -149 := by
    by_cases short : n.log2 ≤ 23
    · right
      omega
    · left
      refine Nat.le_trans ((Nat.le_div_iff_mul_le (Nat.two_pow_pos _)).2 ?_) quotient
      rw [← Nat.pow_add, Nat.add_sub_cancel' (by omega)]
      exact Nat.log2_self_le (Nat.ne_of_gt some)
  refine ⟨kept_settle s narrow (by omega) full, ?_⟩
  rw [units_settle s _ (by omega), Int.sub_add_cancel, Int.toNat_natCast]

/-- A whole number at an exponent is rounded by its units. -/
theorem units_normalize (n : Int) {e : Int} (low : -149 ≤ e) :
    Kept (UnpackedFloat.normalize .binary32 n e .positive) ∧
      units (UnpackedFloat.normalize .binary32 n e .positive) =
        rounded (n * (2 ^ (e + 149).toNat : Nat)) := by
  unfold UnpackedFloat.normalize
  split
  · next below =>
      have below := Int.compare_eq_lt.1 below
      have sized : n * (2 ^ (e + 149).toNat : Nat) =
          Sign.negative.apply ((-n).toNat * 2 ^ (e + 149).toNat : Nat) := by
        rw [Nat.cast_mul, apply_mul, Int.toNat_of_nonneg (by omega)]
        simp [Sign.apply]
      rw [sized]
      exact units_round .negative (by omega) low
  · next zero =>
      rw [Int.compare_eq_eq.1 zero, Int.zero_mul]
      exact ⟨trivial, rfl⟩
  · next above =>
      have above := Int.compare_eq_gt.1 above
      have sized : n * (2 ^ (e + 149).toNat : Nat) =
          Sign.positive.apply (n.toNat * 2 ^ (e + 149).toNat : Nat) := by
        rw [Nat.cast_mul, apply_mul, Int.toNat_of_nonneg (by omega)]
        rfl
      rw [sized]
      exact units_round .positive (by omega) low

/-- What is kept is not rounded further. -/
theorem rounded_of_kept {u : UnpackedFloat} (kept : Kept u) : rounded (units u) = units u := by
  rcases kept_cases kept with ⟨s, rfl⟩ | ⟨s, m, e, pos, rfl, canonical⟩
  · exact rounded_zero
  · apply rounded_of_dvd
    rw [spacing, natAbs_units]
    exact spacing_dvd (e + 149).toNat (Nat.le_of_lt canonical.narrow)

/-! ### Sums and differences -/

/-- What a part of a sum is brought to a common exponent with. -/
theorem units_at (s : Sign) (m : Nat) {e e' : Int} (low : -149 ≤ e') (le : e' ≤ e) :
    s.apply (m * 2 ^ (e - e').toNat : Nat) * (2 ^ (e' + 149).toNat : Nat) =
      s.apply (m * 2 ^ (e + 149).toNat : Nat) := by
  have whole : (e + 149).toNat = (e - e').toNat + (e' + 149).toNat := by omega
  rw [← apply_mul, ← Nat.cast_mul, Nat.mul_assoc, ← Nat.pow_add, ← whole]

/-- A sum is the exact sum, rounded. -/
theorem units_add {u w : UnpackedFloat} (kept_u : Kept u) (kept_w : Kept w) :
    Kept (UnpackedFloat.add .binary32 u w) ∧
      units (UnpackedFloat.add .binary32 u w) = rounded (units u + units w) := by
  rcases kept_cases kept_u with ⟨s, rfl⟩ | ⟨s, m, e, pos, rfl, canonical⟩
  · rcases kept_cases kept_w with ⟨s', rfl⟩ | ⟨s', m', e', pos', rfl, canonical'⟩
    · cases s <;> cases s' <;> exact ⟨trivial, rfl⟩
    · have alone : units (.zero s) + units (.finite s' m' e' pos') =
          units (.finite s' m' e' pos') := Int.zero_add _
      rw [alone, rounded_of_kept kept_w]
      exact ⟨kept_w, rfl⟩
  · rcases kept_cases kept_w with ⟨s', rfl⟩ | ⟨s', m', e', pos', rfl, canonical'⟩
    · have alone : units (.finite s m e pos) + units (.zero s') = units (.finite s m e pos) :=
        Int.add_zero _
      rw [alone, rounded_of_kept kept_u]
      exact ⟨kept_u, rfl⟩
    · have low : -149 ≤ min e e' := Int.le_min.2 ⟨canonical.low, canonical'.low⟩
      have left := units_at s m low (Int.min_le_left e e')
      have right := units_at s' m' low (Int.min_le_right e e')
      have sum := units_normalize (s.apply (m * 2 ^ (e - min e e').toNat : Nat) +
        s'.apply (m' * 2 ^ (e' - min e e').toNat : Nat)) low
      rw [Int.add_mul, left, right] at sum
      simp only [UnpackedFloat.add, decreaseExponent_eq m (Int.min_le_left e e'),
        decreaseExponent_eq m' (Int.min_le_right e e')]
      exact sum

theorem sub_eq_add_neg (u w : UnpackedFloat) :
    UnpackedFloat.sub .binary32 u w = UnpackedFloat.add .binary32 u w.neg := by
  have reflected (s : Sign) (n : Int) : (-s).apply n = -s.apply n := by
    cases s
    · exact (Int.neg_neg n).symm
    · rfl
  cases u with
  | notANumber => cases w <;> rfl
  | infinity s => cases w <;> rfl
  | zero s => cases w <;> rfl
  | finite s m e pos =>
      cases w with
      | notANumber => rfl
      | infinity s' => rfl
      | zero s' => rfl
      | finite s' m' e' pos' =>
          simp only [UnpackedFloat.sub, UnpackedFloat.neg, UnpackedFloat.add, reflected,
            Int.sub_eq_add_neg]

/-- A difference is the exact difference, rounded. -/
theorem units_sub {u w : UnpackedFloat} (kept_u : Kept u) (kept_w : Kept w) :
    Kept (UnpackedFloat.sub .binary32 u w) ∧
      units (UnpackedFloat.sub .binary32 u w) = rounded (units u - units w) := by
  have kept_neg : Kept w.neg := by
    cases w <;> exact kept_w
  have units_neg : units w.neg = -units w := by
    cases w with
    | finite s m e pos =>
        cases s
        · exact (Int.neg_neg _).symm
        · rfl
    | _ => rfl
  rw [sub_eq_add_neg, Int.sub_eq_add_neg, ← units_neg]
  exact units_add kept_u kept_neg

/-! ### Kept values -/

/-- What is kept comes back, if it has not too many units. -/
theorem unpack_pack_of_kept {u : UnpackedFloat} (kept : Kept u)
    (few : (units u).natAbs < ceiling) : (Float32.Model.pack u).unpack = u := by
  rcases kept_cases kept with ⟨s, rfl⟩ | ⟨s, m, e, pos, rfl, canonical⟩
  · exact unpack_packedZero
  · rw [natAbs_units] at few
    exact unpack_pack canonical ((le_iff_units_lt canonical).2 few)

theorem isFinite_pack_of_kept {u : UnpackedFloat} (kept : Kept u) :
    (Float32.Model.pack u).isFinite = true ↔ (units u).natAbs < ceiling := by
  rcases kept_cases kept with ⟨s, rfl⟩ | ⟨s, m, e, pos, rfl, canonical⟩
  · have few : (units (.zero s)).natAbs < ceiling := (by decide : 0 < ceiling)
    refine iff_of_true ?_ few
    show (Float32.Model.pack (.zero s)).unpack.isFinite = true
    rw [unpack_pack_of_kept kept few]
    rfl
  · rw [natAbs_units, ← le_iff_units_lt canonical, isFinite_pack_finite, decide_eq_true_iff]
    omega

/-- Kept mantissas and exponents are told apart by their units. -/
theorem eq_of_units_eq {m m' : Nat} {e e' : Int} (pos : 0 < m) (pos' : 0 < m')
    (canonical : Canonical m e) (canonical' : Canonical m' e')
    (same : m * 2 ^ (e + 149).toNat = m' * 2 ^ (e' + 149).toNat) : m = m' ∧ e = e' := by
  have wide := congrArg Nat.log2 same
  rw [log2_mul_two_pow pos, log2_mul_two_pow pos'] at wide
  have short : m.log2 < 24 := (Nat.log2_lt (Nat.ne_of_gt pos)).2 canonical.narrow
  have short' : m'.log2 < 24 := (Nat.log2_lt (Nat.ne_of_gt pos')).2 canonical'.narrow
  have full : 23 ≤ m.log2 ∨ e = -149 :=
    canonical.full.imp_left (Nat.le_log2 (Nat.ne_of_gt pos)).2
  have full' : 23 ≤ m'.log2 ∨ e' = -149 :=
    canonical'.full.imp_left (Nat.le_log2 (Nat.ne_of_gt pos')).2
  have low := canonical.low
  have low' := canonical'.low
  obtain rfl : e = e' := by omega
  exact ⟨Nat.mul_right_cancel (Nat.two_pow_pos _) same, rfl⟩

theorem units_ne_zero (s : Sign) {m : Nat} (e : Int) (pos : 0 < m) :
    units (.finite s m e pos) ≠ 0 := by
  rw [← Int.natAbs_ne_zero, natAbs_units]
  exact Nat.ne_of_gt (Nat.mul_pos pos (Nat.two_pow_pos _))

/-- Kept values are equal if their units are. -/
theorem compare_eq_iff_units {u w : UnpackedFloat} (kept_u : Kept u) (kept_w : Kept w) :
    u.compare w = some .eq ↔ units u = units w := by
  rcases kept_cases kept_u with ⟨s, rfl⟩ | ⟨s, m, e, pos, rfl, canonical⟩
  · rcases kept_cases kept_w with ⟨s', rfl⟩ | ⟨s', m', e', pos', rfl, canonical'⟩
    · exact iff_of_true rfl rfl
    · refine iff_of_false ?_ (units_ne_zero s' e' pos').symm
      cases s' <;> simp [UnpackedFloat.compare]
  · rcases kept_cases kept_w with ⟨s', rfl⟩ | ⟨s', m', e', pos', rfl, canonical'⟩
    · refine iff_of_false ?_ (units_ne_zero s e pos)
      cases s <;> simp [UnpackedFloat.compare]
    · have some := units_ne_zero s e pos
      have some' := units_ne_zero s' e' pos'
      have same : m * 2 ^ (e + 149).toNat = m' * 2 ^ (e' + 149).toNat ↔ e = e' ∧ m = m' := by
        constructor
        · intro same
          exact (eq_of_units_eq pos pos' canonical canonical' same).symm
        · rintro ⟨rfl, rfl⟩
          rfl
      cases s with
      | negative =>
          cases s' with
          | negative =>
              simp only [UnpackedFloat.compare, units, Sign.apply, Option.some.injEq,
                Ordering.swap_eq_eq, Ordering.then_eq_eq, Int.compare_eq_eq, Nat.compare_eq_eq,
                Int.neg_inj, Int.ofNat_inj, same]
          | positive =>
              simp only [UnpackedFloat.compare, units, Sign.apply] at some ⊢
              exact iff_of_false (by decide) (by omega)
      | positive =>
          cases s' with
          | negative =>
              simp only [UnpackedFloat.compare, units, Sign.apply] at some ⊢
              exact iff_of_false (by decide) (by omega)
          | positive =>
              simp only [UnpackedFloat.compare, units, Sign.apply, Option.some.injEq,
                Ordering.then_eq_eq, Int.compare_eq_eq, Nat.compare_eq_eq, Int.ofNat_inj, same]

section Values

variable {x y z : Float32}

/-- The units of a finite value. -/
def unitsOf (x : Float32) : Int := units x.toModel.unpack

theorem kept_of_isFinite (finite : x.isFinite = true) :
    Kept x.toModel.unpack ∧ (unitsOf x).natAbs < ceiling := by
  have finite : x.toModel.unpack.isFinite = true := finite
  unfold unitsOf
  cases unpacked : x.toModel.unpack with
  | notANumber => simp [unpacked, UnpackedFloat.isFinite] at finite
  | infinity s => simp [unpacked, UnpackedFloat.isFinite] at finite
  | zero s => exact ⟨trivial, (by decide : 0 < ceiling)⟩
  | finite s m e pos =>
      obtain ⟨canonical, small⟩ := canonical_of_unpack unpacked
      rw [natAbs_units]
      exact ⟨canonical, (le_iff_units_lt canonical).1 small⟩

/-- A value has some number of units, or would have if they were not too many to be kept. -/
structure Yields (z : Float32) (n : Int) : Prop where
  isFinite_iff : z.isFinite = true ↔ n.natAbs < ceiling
  units : z.isFinite = true → unitsOf z = n

theorem yields_of_pack {u : UnpackedFloat} (packed : z.toModel = Float32.Model.pack u)
    (kept : Kept u) : Yields z (units u) := by
  have finite : z.isFinite = true ↔ (units u).natAbs < ceiling := by
    show z.toModel.isFinite = true ↔ _
    rw [packed, isFinite_pack_of_kept kept]
  refine ⟨finite, fun is_finite => ?_⟩
  rw [unitsOf, packed, unpack_pack_of_kept kept (finite.1 is_finite)]

theorem yields_add (at_x : x.isFinite = true) (at_y : y.isFinite = true) :
    Yields (x + y) (rounded (unitsOf x + unitsOf y)) := by
  obtain ⟨kept, sum⟩ := units_add (kept_of_isFinite at_x).1 (kept_of_isFinite at_y).1
  exact sum ▸ yields_of_pack rfl kept

theorem yields_sub (at_x : x.isFinite = true) (at_y : y.isFinite = true) :
    Yields (x - y) (rounded (unitsOf x - unitsOf y)) := by
  obtain ⟨kept, difference⟩ := units_sub (kept_of_isFinite at_x).1 (kept_of_isFinite at_y).1
  exact difference ▸ yields_of_pack rfl kept

theorem beq_iff_compare :
    (x == y) = true ↔ x.toModel.unpack.compare y.toModel.unpack = some .eq := by
  show (x.toModel.unpack.compare y.toModel.unpack == some Ordering.eq) = true ↔ _
  exact beq_iff_eq

theorem beq_iff_unitsOf (at_x : x.isFinite = true) (at_y : y.isFinite = true) :
    (x == y) = true ↔ unitsOf x = unitsOf y :=
  beq_iff_compare.trans (compare_eq_iff_units (kept_of_isFinite at_x).1 (kept_of_isFinite at_y).1)

/-- A part of a finite sum is finite. -/
theorem isFinite_of_isFinite_add (finite : (x + y).isFinite = true) : y.isFinite = true := by
  have infinite (s : Sign) : (Float32.Model.pack (.infinity s)).isFinite = false := by
    cases s <;> decide +kernel
  have nothing : (Float32.Model.pack .notANumber).isFinite = false := by decide +kernel
  have finite : (Float32.Model.pack
    (UnpackedFloat.add .binary32 x.toModel.unpack y.toModel.unpack)).isFinite = true := finite
  show y.toModel.unpack.isFinite = true
  generalize x.toModel.unpack = u at finite
  generalize y.toModel.unpack = w at finite ⊢
  cases w with
  | notANumber => cases u <;> simp [UnpackedFloat.add, nothing] at finite
  | infinity s =>
      cases u with
      | infinity s' =>
          simp only [UnpackedFloat.add] at finite
          split at finite
          · simp [infinite] at finite
          · simp [nothing] at finite
      | _ => simp [UnpackedFloat.add, nothing, infinite] at finite
  | zero s => rfl
  | finite s m e pos => rfl

/-- What equals a finite value is finite. -/
theorem isFinite_of_beq (equal : (x == y) = true) (finite : y.isFinite = true) :
    x.isFinite = true := by
  have equal := beq_iff_compare.1 equal
  have finite : y.toModel.unpack.isFinite = true := finite
  show x.toModel.unpack.isFinite = true
  generalize x.toModel.unpack = u at equal ⊢
  generalize y.toModel.unpack = w at equal finite
  cases u with
  | notANumber => cases w <;> cases equal
  | infinity s => cases s <;> cases w <;> simp_all [UnpackedFloat.compare, UnpackedFloat.isFinite]
  | zero s => rfl
  | finite s m e pos => rfl

end Values

end Rounding
end ExitGesture
