import ExitGesture.Config.Basic

/-!
# What validation looks for

A configuration is accepted if none of its parts is at fault, and the first fault that is found is
the error.
-/

namespace ExitGesture
namespace Config

variable {c : Config} {s : Settings} {d : Display} {e : ConfigError}

theorem screenFault?_eq_none_iff :
    c.screenFault? = none ↔ c.screenWidth ≠ 0 ∧ c.screenHeight ≠ 0 := by
  simp [screenFault?]

theorem gateFault?_eq_none_iff {g : Gate} :
    c.gateFault? g = none ↔ (c.duration g).isZero = false := by
  simp [gateFault?]

theorem thresholdFault?_eq_none_iff {t : Threshold} :
    c.thresholdFault? t = none ↔ admits t (c.threshold t) = true := by
  simp [thresholdFault?]

theorem fault?_eq_none_iff :
    c.fault? = none ↔
      (c.screenWidth ≠ 0 ∧ c.screenHeight ≠ 0) ∧ (∀ g, (c.duration g).isZero = false) ∧
        ∀ t, admits t (c.threshold t) = true := by
  have gates : (∀ g ∈ [Gate.hold, .pairing, .tap, .longPress], c.gateFault? g = none) ↔
      ∀ g, (c.duration g).isZero = false :=
    ⟨fun all g => gateFault?_eq_none_iff.1 (all g (by cases g <;> simp)),
      fun all g _ => gateFault?_eq_none_iff.2 (all g)⟩
  have thresholds : (∀ t ∈ [Threshold.cornerSize, .driftTolerance, .edgeTolerance,
      .pairDistanceRatio], c.thresholdFault? t = none) ↔ ∀ t, admits t (c.threshold t) = true :=
    ⟨fun all t => thresholdFault?_eq_none_iff.1 (all t (by cases t <;> simp)),
      fun all t _ => thresholdFault?_eq_none_iff.2 (all t)⟩
  simp only [fault?, Option.orElse_eq_orElse, Option.orElse_eq_or, Option.or_eq_none_iff,
    List.findSome?_eq_none_iff, gates, thresholds, screenFault?_eq_none_iff]

/-- What a fault can be.  Durations and thresholds are looked at on a screen with pixels only. -/
theorem cases_of_fault? (fault : c.fault? = some e) :
    ((c.screenWidth = 0 ∨ c.screenHeight = 0) ∧
      e = .emptyScreen c.screenWidth c.screenHeight) ∨
    ((c.screenWidth ≠ 0 ∧ c.screenHeight ≠ 0) ∧
      ((∃ g, e = .zeroDuration g) ∨ ∃ t, e = .invalidThreshold t (c.threshold t))) := by
  simp only [fault?, Option.orElse_eq_orElse, Option.orElse_eq_or, Option.or_eq_some_iff] at fault
  rcases fault with screen | ⟨pixels, gates | ⟨_, thresholds⟩⟩
  · left
    unfold screenFault? at screen
    by_cases empty : c.screenWidth = 0 ∨ c.screenHeight = 0
    · rw [if_pos empty] at screen
      exact ⟨empty, (Option.some.inj screen).symm⟩
    · rw [if_neg empty] at screen
      cases screen
  · right
    obtain ⟨g, _, gate⟩ := List.exists_of_findSome?_eq_some gates
    unfold gateFault? at gate
    split at gate
    · exact ⟨screenFault?_eq_none_iff.1 pixels, Or.inl ⟨g, (Option.some.inj gate).symm⟩⟩
    · cases gate
  · right
    obtain ⟨t, _, threshold⟩ := List.exists_of_findSome?_eq_some thresholds
    unfold thresholdFault? at threshold
    split at threshold
    · cases threshold
    · exact ⟨screenFault?_eq_none_iff.1 pixels, Or.inr ⟨t, (Option.some.inj threshold).symm⟩⟩

/-! ### Stored settings -/

/-- Settings are accepted on a display whose density is a positive number, if what they come to in
pixels is without fault. -/
theorem exists_ofSettings_iff :
    (∃ c, ofSettings s d = .ok c) ↔
      (d.density.isFinite = true ∧ 0 < d.density) ∧ (scaled s d).fault? = none := by
  unfold ofSettings
  by_cases sound : (d.density.isFinite && 0 < d.density) = true
  · have sound' : d.density.isFinite = true ∧ 0 < d.density := by simpa using sound
    rw [if_pos sound, ← validate_eq_ok_iff]
    cases valid : (scaled s d).validate with
    | ok u => simp [Except.map, sound']
    | error e => simp [Except.map]
  · have unsound : ¬ (d.density.isFinite = true ∧ 0 < d.density) := by simpa using sound
    rw [if_neg sound]
    simp [unsound]

theorem cases_of_ofSettings_error (refused : ofSettings s d = .error e) :
    (¬ (d.density.isFinite = true ∧ 0 < d.density) ∧ e = .invalidDensity d.density) ∨
    ((d.density.isFinite = true ∧ 0 < d.density) ∧ (scaled s d).fault? = some e) := by
  unfold ofSettings at refused
  by_cases sound : (d.density.isFinite && 0 < d.density) = true
  · right
    rw [if_pos sound] at refused
    refine ⟨by simpa using sound, validate_eq_error_iff.1 ?_⟩
    cases valid : (scaled s d).validate with
    | ok u => simp [valid, Except.map] at refused
    | error e' => simpa [valid, Except.map] using refused
  · left
    rw [if_neg sound] at refused
    exact ⟨by simpa using sound, (Except.error.inj refused).symm⟩

end Config
end ExitGesture
