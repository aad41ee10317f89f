import ExitGesture.Proofs.Order
import ExitGesture.Surface

/-!
# Opposite corners

A pair is in opposite corners if one place lies in the top-left square, the other in the
bottom-right square, and both are far enough apart.  The surface asks of each place which corner it
counts as, and a place in both squares counts as top left alone.  A pair that only has such a place
for the bottom right is therefore refused.

Nothing bounds the side of the squares, so they may overlap.  Once they cover the surface every
place on it counts as top left, and no pair is left that can be accepted.
-/

namespace ExitGesture

namespace Config

/-- A place lies in the top-left square. -/
def TopLeft (c : Config) (p : Point) : Prop := p.x ≤ c.cornerSize ∧ p.y ≤ c.cornerSize

/-- A place lies in the bottom-right square. -/
def BottomRight (c : Config) (p : Point) : Prop :=
  c.screenWidth.toFloat32 - c.cornerSize ≤ p.x ∧ c.screenHeight.toFloat32 - c.cornerSize ≤ p.y

/-- Two places lie in opposite squares and are far enough apart. -/
def Opposite (c : Config) (a b : Point) : Prop :=
  (c.TopLeft a ∧ c.BottomRight b ∨ c.TopLeft b ∧ c.BottomRight a) ∧
    (Surface.ofConfig c).minPairDistance ≤ a.distance b

/-- The two squares share places. -/
def CornersOverlap (c : Config) : Prop :=
  c.screenWidth.toFloat32 - c.cornerSize ≤ c.cornerSize ∧
    c.screenHeight.toFloat32 - c.cornerSize ≤ c.cornerSize

/-- Each square is as large as the surface. -/
def CornersCover (c : Config) : Prop :=
  c.screenWidth.toFloat32 ≤ c.cornerSize ∧ c.screenHeight.toFloat32 ≤ c.cornerSize

/-- A place is not beyond the far edges of the surface. -/
def OnScreen (c : Config) (p : Point) : Prop :=
  p.x ≤ c.screenWidth.toFloat32 ∧ p.y ≤ c.screenHeight.toFloat32

variable {c : Config} {a b p : Point}

instance : Decidable (c.TopLeft p) := inferInstanceAs (Decidable (_ ∧ _))

instance : Decidable (c.BottomRight p) := inferInstanceAs (Decidable (_ ∧ _))

instance : Decidable (c.Opposite a b) := inferInstanceAs (Decidable ((_ ∨ _) ∧ _))

instance : Decidable c.CornersCover := inferInstanceAs (Decidable (_ ∧ _))

instance : Decidable (c.OnScreen p) := inferInstanceAs (Decidable (_ ∧ _))

theorem inTopLeft_iff : (Surface.ofConfig c).inTopLeft p = true ↔ c.TopLeft p :=
  Bool.and_eq_true_iff.trans (and_congr decide_eq_true_iff decide_eq_true_iff)

theorem inBottomRight_iff : (Surface.ofConfig c).inBottomRight p = true ↔ c.BottomRight p :=
  Bool.and_eq_true_iff.trans (and_congr decide_eq_true_iff decide_eq_true_iff)

theorem corner?_eq_topLeft_iff :
    (Surface.ofConfig c).corner? p = some .topLeft ↔ c.TopLeft p :=
  Surface.corner?_eq_topLeft_iff.trans inTopLeft_iff

theorem corner?_eq_bottomRight_iff :
    (Surface.ofConfig c).corner? p = some .bottomRight ↔ ¬ c.TopLeft p ∧ c.BottomRight p := by
  rw [Surface.corner?_eq_bottomRight_iff, ← Bool.not_eq_true, inTopLeft_iff, inBottomRight_iff]

/-- A place in both squares shows that they overlap. -/
theorem overlap_of_both (top : c.TopLeft p) (bottom : c.BottomRight p) : c.CornersOverlap :=
  ⟨Rounding.le_trans bottom.1 top.1, Rounding.le_trans bottom.2 top.2⟩

/-- A square that covers the surface holds every place on it. -/
theorem topLeft_of_cover (cover : c.CornersCover) (on_screen : c.OnScreen p) : c.TopLeft p :=
  ⟨Rounding.le_trans on_screen.1 cover.1, Rounding.le_trans on_screen.2 cover.2⟩

/-- A pair is accepted exactly if it is in opposite corners and not both of its places lie in the
top-left square.  A pair in opposite corners that is refused has a place in both squares, so that
they overlap.  Squares that cover the surface refuse every pair on it. -/
theorem accepts_iff_opposite (c : Config) (a b : Point) :
    ((Surface.ofConfig c).isOppositePair a b = true ↔
      c.Opposite a b ∧ ¬ (c.TopLeft a ∧ c.TopLeft b)) ∧
    (c.Opposite a b ∧ (Surface.ofConfig c).isOppositePair a b = false →
      (c.TopLeft a ∧ c.BottomRight a ∨ c.TopLeft b ∧ c.BottomRight b) ∧ c.CornersOverlap) ∧
    (c.CornersCover ∧ c.OnScreen a ∧ c.OnScreen b →
      (Surface.ofConfig c).isOppositePair a b = false) := by
  have accepted : (Surface.ofConfig c).isOppositePair a b = true ↔
      c.Opposite a b ∧ ¬ (c.TopLeft a ∧ c.TopLeft b) := by
    rw [Surface.isOppositePair_eq_true_iff, corner?_eq_topLeft_iff, corner?_eq_topLeft_iff,
      corner?_eq_bottomRight_iff, corner?_eq_bottomRight_iff]
    constructor
    · rintro ⟨⟨top, apart, bottom⟩ | ⟨⟨apart, bottom⟩, top⟩, far⟩
      · exact ⟨⟨Or.inl ⟨top, bottom⟩, far⟩, fun both => apart both.2⟩
      · exact ⟨⟨Or.inr ⟨top, bottom⟩, far⟩, fun both => apart both.1⟩
    · rintro ⟨⟨⟨top, bottom⟩ | ⟨top, bottom⟩, far⟩, apart⟩
      · exact ⟨Or.inl ⟨top, fun top' => apart ⟨top, top'⟩, bottom⟩, far⟩
      · exact ⟨Or.inr ⟨⟨fun top' => apart ⟨top', top⟩, bottom⟩, top⟩, far⟩
  refine ⟨accepted, ?_, ?_⟩
  · rintro ⟨opposite, refused⟩
    have both_top : c.TopLeft a ∧ c.TopLeft b := by
      by_contra apart
      simp [accepted.2 ⟨opposite, apart⟩] at refused
    have shared : c.TopLeft a ∧ c.BottomRight a ∨ c.TopLeft b ∧ c.BottomRight b := by
      rcases opposite.1 with ⟨_, bottom⟩ | ⟨_, bottom⟩
      · exact Or.inr ⟨both_top.2, bottom⟩
      · exact Or.inl ⟨both_top.1, bottom⟩
    refine ⟨shared, ?_⟩
    rcases shared with ⟨top, bottom⟩ | ⟨top, bottom⟩
    · exact overlap_of_both top bottom
    · exact overlap_of_both top bottom
  · rintro ⟨cover, at_a, at_b⟩
    rw [← Bool.not_eq_true, accepted]
    exact fun both => both.2 ⟨topLeft_of_cover cover at_a, topLeft_of_cover cover at_b⟩

/-- Squares as large as the surface refuse the two corners of the surface themselves. -/
theorem accepts_iff_opposite_covered :
    let c : Config := { Config.forScreen .oppositeCornersHold 100 100 with cornerSize := 100 }
    let origin : Point := ⟨0, 0⟩
    let far_corner : Point := ⟨100, 100⟩
    c.validate = .ok () ∧ c.CornersCover ∧ c.OnScreen origin ∧ c.OnScreen far_corner ∧
      c.Opposite origin far_corner ∧
      (Surface.ofConfig c).isOppositePair origin far_corner = false ∧
      (c.TopLeft origin ∧ c.BottomRight origin ∨ c.TopLeft far_corner ∧ c.BottomRight far_corner) ∧
      c.CornersOverlap := by
  intro c origin far_corner
  have cover : c.CornersCover := by decide +kernel
  have at_origin : c.OnScreen origin := by decide +kernel
  have at_far : c.OnScreen far_corner := by decide +kernel
  have opposite : c.Opposite origin far_corner := by decide +kernel
  obtain ⟨_, shares, refuses⟩ := accepts_iff_opposite c origin far_corner
  have refused := refuses ⟨cover, at_origin, at_far⟩
  exact ⟨by decide +kernel, cover, at_origin, at_far, opposite, refused, shares ⟨opposite, refused⟩⟩

/-- On a small surface with large corners one pair is refused, and its mirror image accepted. -/
theorem refuses_opposite :
    let c : Config := { Config.forScreen .oppositeCornersHold 100 100 with cornerSize := 90 }
    c.validate = .ok () ∧ c.Opposite ⟨0, 0⟩ ⟨90, 90⟩ ∧
      (Surface.ofConfig c).isOppositePair ⟨0, 0⟩ ⟨90, 90⟩ = false ∧
      (Surface.ofConfig c).isOppositePair ⟨100, 100⟩ ⟨10, 10⟩ = true := by
  decide +kernel

end Config
end ExitGesture
