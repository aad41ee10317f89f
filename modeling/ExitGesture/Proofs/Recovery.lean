import ExitGesture.Proofs.Rounding
import ExitGesture.Proofs.Validation

/-!
# What a host can cure

A host that cannot use its stored settings falls back to the standard ones on the same display.  An
error says whether that helps: what is wrong with the display is beyond recovery, and everything
else is put down to the settings.

**Dense displays.**  One thing that is wrong with a display is put down to the settings.  If a
display is so dense that the standard corner is infinitely many pixels wide, the error names a
distance, and no fall-back cures it.
-/

namespace ExitGesture

/-- A display that can be measured: its density is a positive number, and it has pixels. -/
structure Display.Usable (d : Display) : Prop where
  density : d.density.isFinite = true ∧ 0 < d.density
  pixels : d.width ≠ 0 ∧ d.height ≠ 0

/-- The largest of the standard distances is out of range. -/
def Display.TooDense (d : Display) : Prop :=
  d.Usable ∧ (d.pixels Settings.standard.cornerDp).isFinite = false

namespace Config

variable {s : Settings} {d : Display} {e : ConfigError}

theorem isRecoverable_iff_usable (refused : ofSettings s d = .error e) :
    e.isRecoverable = true ↔ d.Usable := by
  rcases cases_of_ofSettings_error refused with ⟨unsound, rfl⟩ | ⟨density, fault⟩
  · exact iff_of_false Bool.false_ne_true fun usable => unsound usable.density
  · rcases cases_of_fault? fault with ⟨empty, rfl⟩ | ⟨pixels, other⟩
    · refine iff_of_false Bool.false_ne_true fun usable => ?_
      exact empty.elim usable.pixels.1 usable.pixels.2
    · have usable : d.Usable := ⟨density, pixels⟩
      rcases other with ⟨g, rfl⟩ | ⟨t, rfl⟩
      · exact iff_of_true rfl usable
      · exact iff_of_true rfl usable

/-! ### The standard settings -/

open Rounding

/-- The corner is `9437184 / 2 ^ 17` units wide. -/
theorem isPos_standardCorner : IsPos Settings.standard.cornerDp 9437184 (-17) :=
  ⟨by decide, rfl⟩

/-- The band along the edge is `12582912 / 2 ^ 19` units wide. -/
theorem isPos_standardEdge : IsPos standardEdgeDp 12582912 (-19) :=
  ⟨by decide, rfl⟩

/-- The band along the edge is a third of the corner, and finite if the corner is. -/
theorem isFinite_standardEdge (density : d.density.isFinite = true ∧ 0 < d.density)
    (finite : (d.pixels Settings.standard.cornerDp).isFinite = true) :
    (d.pixels standardEdgeDp).isFinite = true := by
  obtain ⟨n, f, at_density⟩ := exists_isPos density.1 density.2
  have n_pos : 0 < n := at_density.choose
  have corner := le_of_isFinite_mul (by decide) isPos_standardCorner at_density finite
  -- the leading bit of a third lies one place lower at least, which makes up for the rounding
  have within : 12582912 * n < 2 ^ ((9437184 * n).log2 + 2) := by
    have bound : 9437184 * n < 2 ^ ((9437184 * n).log2 + 1) := Nat.lt_log2_self
    rw [Nat.pow_succ]
    omega
  have shorter : (12582912 * n).log2 < (9437184 * n).log2 + 2 :=
    (Nat.log2_lt (by omega)).2 within
  refine isFinite_mul_of_le (by decide) isPos_standardEdge at_density ?_
  simp only [Float.Model.totalExponent] at corner ⊢
  omega

/-- A display that is not too dense turns each of the standard distances into a distance. -/
theorem admits_standard (usable : d.Usable)
    (finite : (d.pixels Settings.standard.cornerDp).isFinite = true) (t : Threshold) :
    admits t ((scaled .standard d).threshold t) = true := by
  obtain ⟨n, f, at_density⟩ := exists_isPos usable.density.1 usable.density.2
  have edge_finite := isFinite_standardEdge usable.density finite
  have edge_sign : 0 ≤ d.pixels standardEdgeDp :=
    zero_le_mul (by decide) isPos_standardEdge at_density
  have corner_sign : 0 ≤ d.pixels Settings.standard.cornerDp :=
    zero_le_mul (by decide) isPos_standardCorner at_density
  cases t with
  | cornerSize => simp [admits, threshold, scaled, finite, corner_sign]
  | driftTolerance =>
      show ((d.pixels standardEdgeDp).isFinite && decide (0 ≤ d.pixels standardEdgeDp)) = true
      simp [edge_finite, edge_sign]
  | edgeTolerance => simp [admits, threshold, scaled, edge_finite, edge_sign]
  | pairDistanceRatio =>
      show (decide (0 ≤ standardPairDistanceRatio) && decide (standardPairDistanceRatio ≤ 1)) = true
      decide +kernel

theorem exists_standard_iff :
    (∃ c, ofSettings .standard d = .ok c) ↔ d.Usable ∧ ¬ d.TooDense := by
  rw [exists_ofSettings_iff, fault?_eq_none_iff]
  constructor
  · rintro ⟨density, pixels, _, admitted⟩
    have corner : admits .cornerSize (d.pixels Settings.standard.cornerDp) = true :=
      admitted .cornerSize
    refine ⟨⟨density, pixels⟩, fun dense => ?_⟩
    simp [admits, dense.2] at corner
  · rintro ⟨usable, not_dense⟩
    have finite : (d.pixels Settings.standard.cornerDp).isFinite = true := by
      by_contra overflow
      exact not_dense ⟨usable, by simpa using overflow⟩
    refine ⟨usable.density, usable.pixels, fun g => ?_, admits_standard usable finite⟩
    cases g <;> rfl

/-! ### Falling back -/

/-- A refusal is called recoverable exactly if the standard settings are accepted on the same
display, or if the display is usable but too dense, and then they are not. -/
theorem isRecoverable_iff_cured_or_tooDense (refused : ofSettings s d = .error e) :
    (e.isRecoverable = true ↔ (∃ c, ofSettings .standard d = .ok c) ∨ d.TooDense) ∧
      (d.TooDense → ∀ c, ofSettings .standard d ≠ .ok c) := by
  rw [isRecoverable_iff_usable refused, exists_standard_iff]
  constructor
  · constructor
    · intro usable
      by_cases dense : d.TooDense
      · exact Or.inr dense
      · exact Or.inl ⟨usable, dense⟩
    · rintro (⟨usable, _⟩ | dense)
      · exact usable
      · exact dense.1
  · intro dense c accepted
    exact (exists_standard_iff.1 ⟨c, accepted⟩).2 dense

theorem isRecoverable_iff_cured_or_tooDense_zeroHold :
    let zeroHold : Settings := { Settings.standard with holdMillis := 0 }
    let d : Display := ⟨2, 1080, 1920⟩
    ofSettings zeroHold d = .error (.zeroDuration .hold) ∧
      ((ConfigError.zeroDuration .hold).isRecoverable = true ↔
        (∃ c, ofSettings .standard d = .ok c) ∨ d.TooDense) ∧
      (d.TooDense → ∀ c, ofSettings .standard d ≠ .ok c) := by
  have refused : ofSettings { Settings.standard with holdMillis := 0 } ⟨2, 1080, 1920⟩ =
      .error (.zeroDuration .hold) := by
    decide +kernel
  exact ⟨refused, isRecoverable_iff_cured_or_tooDense refused⟩

/-- The display is dense enough for 72 units to be infinitely many pixels.  The standard settings
are refused, and to fall back to the standard settings is said to help. -/
theorem recoverable_and_refused :
    let dense : Display := ⟨1e37, 1080, 1920⟩
    ∃ e, ofSettings .standard dense = .error e ∧ e.isRecoverable = true ∧
      ¬ ∃ c, ofSettings .standard dense = .ok c := by
  have refused : ofSettings .standard ⟨1e37, 1080, 1920⟩ =
      .error (.invalidThreshold .cornerSize (Display.pixels ⟨1e37, 1080, 1920⟩ 72)) := by
    decide +kernel
  refine ⟨_, refused, rfl, ?_⟩
  rintro ⟨c, accepted⟩
  rw [refused] at accepted
  cases accepted

end Config
end ExitGesture
