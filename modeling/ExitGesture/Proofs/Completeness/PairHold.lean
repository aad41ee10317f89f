import ExitGesture.Proofs.Completeness.Basic

/-!
# A pair that is held fires

Whatever was before, two pointers that land as their gesture wants them to are held at once, and the
hold completes unless a pointer lands, lifts or strays.
-/

namespace ExitGesture
namespace PairHold

/-- Whether two places are where a gesture wants a pair to land. -/
def inPlace (c : Config) (header : Rect) (a b : Point) : Bool :=
  match c.gesture with
  | .oppositeCornersHold => (Surface.ofConfig c).isOppositePair a b
  | .twoFingerHeaderHold => header.contains a && header.contains b
  | .singleFingerEdgeDragHold | .tripleTapDebug => false

/-- Two pointers land as a gesture wants a pair to land. -/
structure Pairs (c : Config) (header : Rect) (first second : Contact) : Prop where
  other : second.pointer ≠ first.pointer
  soon : second.time - first.time ≤ c.pairTimeout.millis
  in_place : inPlace c header first.position second.position = true

/-- One of two pointers has not moved far from where it landed. -/
def Near (tolerance : Float32) (first second b : Contact) : Prop :=
  b.pointer = first.pointer ∧ ¬ tolerance < first.drift b ∨
    b.pointer = second.pointer ∧ ¬ tolerance < second.drift b

instance (tolerance : Float32) (first second : Contact) :
    DecidablePred (Near tolerance first second) := fun _ => inferInstanceAs (Decidable (_ ∨ _))

/-- A gesture that wants a pair there waits for it, and takes it. -/
theorem accepts_of_inPlace {c : Config} {h : Host} {a b : Point}
    (in_place : inPlace c h.header a b = true) (first : Contact) :
    c.gesture.pairsPointers = true ∧
      ∃ region, Tracker.landed first c.gesture = .pairHold region (.awaitingSecond first) ∧
        region.accepts (h.view c) a b = true := by
  unfold inPlace at in_place
  cases gesture : c.gesture with
  | oppositeCornersHold =>
      rw [gesture] at in_place
      exact ⟨rfl, .oppositeCorners, rfl, in_place⟩
  | twoFingerHeaderHold =>
      rw [gesture] at in_place
      exact ⟨rfl, .header, rfl, in_place⟩
  | singleFingerEdgeDragHold => simp [gesture] at in_place
  | tripleTapDebug => simp [gesture] at in_place

variable {region : Region} {v : View} {first second : Contact}

theorem react_steady {timer : HoldTimer} {s : Stimulus} (other : second.pointer ≠ first.pointer)
    (steady : s.Steady (Near v.config.driftTolerance first second)) :
    react region v (.holding first second timer) s =
      (.holding first second (timer.advance v.config s.time).1,
        (timer.advance v.config s.time).2) := by
  cases s with
  | tick now => rfl
  | motion k b =>
      cases k with
      | land => exact steady.elim
      | lift => exact steady.elim
      | move =>
          refine react_near ?_
          rcases steady with ⟨at_first, near⟩ | ⟨at_second, near⟩
          · simp [at_first, View.not_strays_iff.2 near]
          · simp [at_second, other.symm, View.not_strays_iff.2 near]

theorem steadyHold (region : Region) (c : Config) (other : second.pointer ≠ first.pointer) :
    SteadyHold c (Near c.driftTolerance first second)
      (fun timer => .pairHold region (.holding first second timer)) where
  active _ := rfl
  reacts h _ _ steady := tracker_react_eq (react_steady (v := h.view c) other steady)

/-- A second pointer is not one too many if only one is down. -/
theorem joins_of_single {r : Recognizer} (h : Host) (single : r.onSurface = [first.pointer])
    (other : second.pointer ≠ first.pointer) (pairs : r.config.gesture.pairsPointers = true) :
    Moment.Joins r ⟨h, .touch ⟨.pointerDown, second⟩⟩ := by
  rintro _ ⟨⟩
  refine ⟨by simp, fun _ => ?_⟩
  have two : [first.pointer].insert second.pointer = [second.pointer, first.pointer] :=
    List.insert_of_not_mem (by simpa using other)
  simp [Recognizer.Crowded, Recognizer.counted, Recognizer.pointersAfter, single, two,
    Gesture.maxPointers, pairs, Touch.pointer]

/-- Two pointers that land as their gesture wants them to are held from the second landing on. -/
theorem holds_of_landed {r : Recognizer} {h₁ h₂ : Host} (wf : r.WellFormed)
    (listening₁ : h₁.exploring = false) (listening₂ : h₂.exploring = false)
    (pairs : Pairs r.config h₂.header first second) :
    let waiting := r.after ⟨h₁, .touch ⟨.down, first⟩⟩
    let joined : Moment := ⟨h₂, .touch ⟨.pointerDown, second⟩⟩
    ¬ waiting.Fires joined ∧ (waiting.serve joined).answer = .consumed true ∧
      ∃ region, (waiting.after joined).Holds r.config
        (fun timer => .pairHold region (.holding first second timer)) second.time := by
  intro waiting joined
  obtain ⟨gesture, region, landed, accepted⟩ := accepts_of_inPlace pairs.in_place first
  have holds : r.config.gesture ≠ .tripleTapDebug := by
    intro taps
    simp [taps, Gesture.pairsPointers] at gesture
  obtain ⟨single, pursues⟩ :=
    Recognizer.pursues_landed (t := ⟨.down, first⟩) wf holds listening₁ rfl
  rw [landed] at pursues
  have heard : joined.stimulus? = some (.motion .land second) := by
    simp [joined, Moment.stimulus?, listening₂, Touch.Kind.motion?]
  have joins : joined.Joins waiting :=
    joins_of_single h₂ single pairs.other (pursues.config.symm ▸ gesture)
  have reacts := react_joined pairs.other pairs.soon accepted
  obtain ⟨rests, goes_on, answer⟩ := pursues.proceed heard joins (tracker_react_eq reacts)
  exact ⟨rests, answer _ rfl, region, .start second.time, rfl, goes_on⟩

/-- Whatever was before, two pointers that land as their gesture wants them to and stay where they
landed fire by the first moment at which the hold has lasted long enough, and only by it. -/
theorem fires_once_of_held (c : Config) (history : List Moment) {h₁ h₂ : Host}
    {first second : Contact} {later : List Moment} (listening₁ : h₁.exploring = false)
    (listening₂ : h₂.exploring = false)
    (pairs : Pairs ((Recognizer.ofConfig c).run history).config h₂.header first second)
    (steady : ∀ n ∈ later, n.Steady
      (Near ((Recognizer.ofConfig c).run history).config.driftTolerance first second)) :
    let r := (Recognizer.ofConfig c).run history
    let waiting := r.after ⟨h₁, .touch ⟨.down, first⟩⟩
    let joined : Moment := ⟨h₂, .touch ⟨.pointerDown, second⟩⟩
    ¬ waiting.Fires joined ∧ (waiting.serve joined).answer = .consumed true ∧
      (waiting.after joined).stage = .active ∧
      (waiting.after joined).CompletesOnce second.time r.config.hold.millis later := by
  intro r waiting joined
  have wf : r.WellFormed := (Recognizer.WellFormed.ofConfig c).run history
  obtain ⟨rests, answer, region, holds⟩ := holds_of_landed wf listening₁ listening₂ pairs
  have steady_hold := steadyHold region r.config pairs.other
  exact ⟨rests, answer, holds.stage steady_hold, holds.completesOnce steady_hold steady⟩

/-- A pair fired, and the latch is still closed when the next pair lands.  Its pointers tremble, and
it fires by the tick that ends its hold. -/
theorem fires_once_of_held_corners :
    let host : Host := .phone .oppositeCornersHold
    let history := host.touches
        [⟨.down, 0, ⟨10, 10⟩, 0⟩, ⟨.pointerDown, 1, ⟨1070, 1910⟩, 50⟩] ++
      [⟨host, .tick 2550⟩]
    let first : Contact := ⟨7, ⟨1070, 1910⟩, 3000⟩
    let second : Contact := ⟨8, ⟨10, 10⟩, 3050⟩
    let r := (Recognizer.ofConfig (.forScreen .oppositeCornersHold 1080 1920)).run history
    let waiting := r.after ⟨host, .touch ⟨.down, first⟩⟩
    let joined : Moment := ⟨host, .touch ⟨.pointerDown, second⟩⟩
    let later : List Moment :=
      [⟨host, .touch ⟨.move, 7, ⟨1068, 1908⟩, 4000⟩⟩, ⟨host, .tick 5550⟩,
        ⟨host, .touch ⟨.move, 8, ⟨11, 12⟩, 5600⟩⟩]
    r.latched = true ∧ Pairs r.config host.header first second ∧
      (∀ n ∈ later, n.Steady (Near r.config.driftTolerance first second)) ∧
      ¬ waiting.Fires joined ∧ (waiting.serve joined).answer = .consumed true ∧
      (waiting.after joined).stage = .active ∧
      (waiting.after joined).CompletesOnce second.time r.config.hold.millis later := by
  intro host history first second r waiting joined later
  have pairs : Pairs r.config host.header first second :=
    ⟨by decide, by decide +kernel, by decide +kernel⟩
  have steady : ∀ n ∈ later, n.Steady (Near r.config.driftTolerance first second) := by
    decide +kernel
  exact ⟨by decide +kernel, pairs, steady,
    fires_once_of_held (.forScreen .oppositeCornersHold 1080 1920) history rfl rfl pairs steady⟩

end PairHold
end ExitGesture
