import ExitGesture.Proofs.Magnitude
import ExitGesture.Proofs.Polling
import ExitGesture.Proofs.Tracker.Timer

/-!
# Either finger may land first

A pair is judged by the two places that it lands at, and neither region asks which of them was
first.  Two pointers that land at each other's places are therefore taken for the same pair, too
late or in the wrong place at the same time, whatever the recognizer was in the middle of.

**Comparison.**  The two recognizers remember different places, and a later move is measured from
them.  All else that they hold is the same, and so is everything that the host can read: they
`Resemble` each other.
-/

namespace ExitGesture

/-! ### Places -/

theorem Surface.isOppositePair_comm (s : Surface) (a b : Point) :
    s.isOppositePair a b = s.isOppositePair b a := by
  rw [Bool.eq_iff_iff, isOppositePair_eq_true_iff, isOppositePair_eq_true_iff, a.distance_comm b,
    and_comm (a := s.corner? b = _), and_comm (a := s.corner? b = _), or_comm]

theorem PairHold.Region.accepts_comm (region : Region) (v : View) (a b : Point) :
    region.accepts v a b = region.accepts v b a := by
  cases region with
  | oppositeCorners => exact v.surface.isOppositePair_comm a b
  | header => exact Bool.and_comm _ _

/-! ### Trackers -/

namespace Tracker

/-- Two trackers are in the middle of the same attempt, but for the places that it remembers. -/
structure Resembles (τ τ' : Tracker) : Prop where
  gesture : τ.gesture = τ'.gesture
  stage : τ.stage = τ'.stage
  awaiting : τ.awaiting = τ'.awaiting
  tracked : τ.tracked = τ'.tracked
  timer : τ.timer? = τ'.timer?

theorem Resembles.refl (τ : Tracker) : τ.Resembles τ := ⟨rfl, rfl, rfl, rfl, rfl⟩

theorem Resembles.cleared {τ τ' : Tracker} (alike : τ.Resembles τ') : τ.cleared = τ'.cleared :=
  congrArg ofGesture alike.gesture

/-- First landings of one pointer at one time. -/
theorem landed_resembles (p : PointerId) (a b : Point) (t : Time) (g : Gesture) :
    (landed ⟨p, a, t⟩ g).Resembles (landed ⟨p, b, t⟩ g) := by
  cases g <;> exact ⟨rfl, rfl, rfl, rfl, rfl⟩

/-- Two contacts of one pointer at one time, waiting for a partner. -/
theorem waiting_resembles (region : PairHold.Region) (p : PointerId) (a b : Point) (t : Time) :
    (pairHold region (.awaitingSecond ⟨p, a, t⟩)).Resembles
      (pairHold region (.awaitingSecond ⟨p, b, t⟩)) := by
  cases region <;> exact ⟨rfl, rfl, rfl, rfl, rfl⟩

/-- A partner that lands at the place of the first pointer, which has landed at the partner's. -/
theorem land_exchanged (region : PairHold.Region) (v : View) (p q : PointerId) (a b : Point)
    (t t' : Time) :
    let step := (pairHold region (.awaitingSecond ⟨p, a, t⟩)).step v .land ⟨q, b, t'⟩
    let step' := (pairHold region (.awaitingSecond ⟨p, b, t⟩)).step v .land ⟨q, a, t'⟩
    step.2 = step'.2 ∧ step.1.Resembles step'.1 := by
  intro step step'
  simp only [step, step', Tracker.step, PairHold.step, PairHold.land, PairHold.expired,
    region.accepts_comm v b a]
  split_ifs
  · -- the partner is a first pointer itself
    exact ⟨rfl, waiting_resembles region q b a t'⟩
  · refine ⟨rfl, ?_⟩
    cases region <;> exact ⟨rfl, rfl, rfl, rfl, rfl⟩
  · exact ⟨rfl, waiting_resembles region p a b t⟩

end Tracker

/-! ### Recognizers -/

namespace Recognizer

/-- Two recognizers hold the same, but for the places that an attempt remembers. -/
structure Resembles (r r' : Recognizer) : Prop where
  config : r.config = r'.config
  surface : r.surface = r'.surface
  tracker : r.tracker.Resembles r'.tracker
  onSurface : r.onSurface = r'.onSurface
  latched : r.latched = r'.latched
  lastAbandon : r.lastAbandon = r'.lastAbandon
  triggers : r.triggers = r'.triggers

variable {r r' : Recognizer} {h : Host} {t : Touch}

theorem Resembles.refl (r : Recognizer) : r.Resembles r :=
  ⟨rfl, rfl, .refl r.tracker, rfl, rfl, rfl, rfl⟩

/-- Two outcomes that the host cannot tell apart by what it can read. -/
structure OutcomeAlike (o o' : Outcome Recognizer Bool) : Prop where
  answer : o.answer = o'.answer
  signals : o.signals = o'.signals
  state : o.state.Resembles o'.state

theorem abandon_resembles (alike : r.Resembles r') (why : AbandonReason) :
    (r.abandon why).signals = (r'.abandon why).signals ∧
      (r.abandon why).state.Resembles (r'.abandon why).state := by
  have stage : r.stage = r'.stage := alike.tracker.stage
  constructor
  · by_cases idle : r'.stage = .idle
    · simp [abandon, stage, idle, Outcome.silent]
    · simp [abandon, stage, idle]
  · rw [state_abandon, state_abandon, stage, alike.lastAbandon, alike.tracker.cleared]
    exact ⟨alike.config, alike.surface, .refl _, alike.onSurface, alike.latched, rfl,
      alike.triggers⟩

/-- Recognizers that resemble each other settle a verdict alike. -/
theorem settle_resembles (alike : r.Resembles r') (w : Verdict) (ends : Bool) :
    OutcomeAlike (r.settle w ends) (r'.settle w ends) := by
  cases w with
  | proceed consumed => exact ⟨rfl, rfl, alike⟩
  | restart gap => exact ⟨rfl, rfl, alike⟩
  | pulse held => exact ⟨rfl, rfl, alike⟩
  | abandon why =>
      obtain ⟨signals, state⟩ := abandon_resembles alike why
      exact ⟨rfl, signals, state⟩
  | complete =>
      simp only [settle, alike.config, alike.triggers, alike.tracker.cleared]
      exact ⟨rfl, rfl, rfl, alike.surface, .refl _, alike.onSurface, rfl, alike.lastAbandon, rfl⟩

theorem advance_resembles (alike : r.Resembles r') {step step' : Tracker × Verdict}
    (verdict : step.2 = step'.2) (tracker : step.1.Resembles step'.1) (now : Time) (ends : Bool) :
    OutcomeAlike (r.advance step now ends) (r'.advance step' now ends) := by
  have stepped : ({ r with tracker := step.1 } : Recognizer).Resembles
      { r' with tracker := step'.1 } :=
    { alike with tracker }
  obtain ⟨answer, signals, state⟩ := settle_resembles stepped step.2 ends
  rw [verdict] at answer signals state
  have logged : stageLog r.stage (({ r with tracker := step.1 } : Recognizer).settle step'.2
      ends).state.stage now = stageLog r'.stage (({ r' with tracker := step'.1 } :
        Recognizer).settle step'.2 ends).state.stage now :=
    congrArg₂ (stageLog · · now) alike.tracker.stage state.tracker.stage
  simp only [advance, verdict]
  exact ⟨answer, congrArg₂ (· ++ ·) signals logged, state⟩

/-- First landings of one pointer at one time, at two places. -/
theorem touch_down_resembles (wf : r.WellFormed) (holds : r.config.gesture ≠ .tripleTapDebug)
    (listening : h.exploring = false) (p : PointerId) (a b : Point) (time : Time) :
    OutcomeAlike (r.touch h ⟨.down, p, a, time⟩) (r.touch h ⟨.down, p, b, time⟩) := by
  have clears := clears_of_holds wf holds
  obtain ⟨answer, state, signals⟩ := touch_down (r := r) (t := ⟨.down, p, a, time⟩) listening rfl
  obtain ⟨answer', state', signals'⟩ := touch_down (r := r) (t := ⟨.down, p, b, time⟩) listening rfl
  rw [readied_of_down wf clears rfl, Tracker.land_ofGesture] at answer state signals
  rw [readied_of_down wf clears rfl, Tracker.land_ofGesture] at answer' state' signals'
  have same (ready : Recognizer) : OutcomeAlike
      (ready.advance (.landed ⟨p, a, time⟩ r.config.gesture, .proceed false) time false)
      (ready.advance (.landed ⟨p, b, time⟩ r.config.gesture, .proceed false) time false) := by
    refine advance_resembles (.refl ready) ?_ ?_ time false
    · rfl
    · exact Tracker.landed_resembles p a b time r.config.gesture
  refine ⟨answer.trans answer'.symm, ?_, ?_⟩
  · rw [signals, signals']
    exact congrArg (_ ++ ·) (same _).signals
  · rw [state, state']
    exact (same _).state

/-- A second pointer is not one too many beside a single one. -/
theorem few_of_single (pairs : r.config.gesture.pairsPointers = true) {p : PointerId}
    (single : r.onSurface = [p]) (joins : t.kind = .pointerDown) : ¬ (r.counted t).Crowded := by
  have two : ([p].insert t.pointer).length ≤ 2 := by
    rw [List.insert]
    split_ifs <;> simp
  simpa [Crowded, counted, pointersAfter, single, Gesture.maxPointers, pairs, joins] using two

/-- A second pointer that lands beside one that waits for it, places exchanged. -/
theorem touch_pointerDown_resembles (alike : r.Resembles r') (listening : h.exploring = false)
    (opened : r.latched = false) (pairs : r.config.gesture.pairsPointers = true)
    {region : PairHold.Region} {p : PointerId} {a b : Point} {t : Time} (single : r.onSurface = [p])
    (waits : r.tracker = .pairHold region (.awaitingSecond ⟨p, a, t⟩))
    (waits' : r'.tracker = .pairHold region (.awaitingSecond ⟨p, b, t⟩))
    (q : PointerId) (t' : Time) :
    OutcomeAlike (r.touch h ⟨.pointerDown, q, b, t'⟩) (r'.touch h ⟨.pointerDown, q, a, t'⟩) := by
  have few : ¬ (r.counted ⟨.pointerDown, q, b, t'⟩).Crowded := few_of_single pairs single rfl
  have few' : ¬ (r'.counted ⟨.pointerDown, q, a, t'⟩).Crowded :=
    few_of_single (alike.config ▸ pairs) (alike.onSurface ▸ single) rfl
  have counted : (r.counted ⟨.pointerDown, q, b, t'⟩).Resembles
      (r'.counted ⟨.pointerDown, q, a, t'⟩) :=
    { alike with
      onSurface := congrArg (List.insert q) alike.onSurface
      latched := rfl }
  have view : r.view h = r'.view h := by rw [view, view, alike.config, alike.surface]
  obtain ⟨verdict, tracker⟩ := Tracker.land_exchanged region (r'.view h) p q a b t t'
  rw [touch_of_heard listening opened (by simp) rfl fun _ => few,
    touch_of_heard listening (alike.latched ▸ opened) (by simp) rfl fun _ => few', view, waits,
    waits']
  exact advance_resembles counted verdict tracker t' false

/-- A distance is the same both ways, and so is an opposite-corner pair.  A pair of pointers is
therefore taken alike if the two land at each other's places instead, in any state of any run: both
landings are answered and signalled alike, and all that the recognizer holds afterwards is the same,
but for the two places. -/
theorem pair_of_exchanged (c : Config) (history : List Moment) {h h' : Host}
    (pairs : ((ofConfig c).run history).config.gesture.pairsPointers = true)
    (listening : h.exploring = false) (listening' : h'.exploring = false) :
    (∀ a b : Point, a.distance b = b.distance a) ∧
    (∀ (s : Surface) (a b : Point), s.isOppositePair a b = s.isOppositePair b a) ∧
    ∀ (p q : PointerId) (a b : Point) (t t' : Time),
      let r := (ofConfig c).run history
      let first := r.touch h ⟨.down, p, a, t⟩
      let first' := r.touch h ⟨.down, p, b, t⟩
      OutcomeAlike first first' ∧
        OutcomeAlike (first.state.touch h' ⟨.pointerDown, q, b, t'⟩)
          (first'.state.touch h' ⟨.pointerDown, q, a, t'⟩) := by
  refine ⟨Point.distance_comm, Surface.isOppositePair_comm, ?_⟩
  intro p q a b t t' r first first'
  have wf : r.WellFormed := (WellFormed.ofConfig c).run history
  have holds : r.config.gesture ≠ .tripleTapDebug := Gesture.holds_of_pairs pairs
  have begun : OutcomeAlike first first' := touch_down_resembles wf holds listening p a b t
  refine ⟨begun, ?_⟩
  obtain ⟨region, landed⟩ := Tracker.landed_of_pairs pairs
  have clears := clears_of_holds wf holds
  have state := (touch_restarts (t := ⟨.down, p, a, t⟩) wf clears listening rfl).2
  have state' := (touch_restarts (t := ⟨.down, p, b, t⟩) wf clears listening rfl).2
  have opened : first.state.latched = false := by rw [state]
  have pairs : first.state.config.gesture.pairsPointers = true := by
    rw [state]
    exact pairs
  have single : first.state.onSurface = [p] := by
    rw [state]
    rfl
  have waits : first.state.tracker = .pairHold region (.awaitingSecond ⟨p, a, t⟩) := by
    rw [state]
    exact landed _
  have waits' : first'.state.tracker = .pairHold region (.awaitingSecond ⟨p, b, t⟩) := by
    rw [state']
    exact landed _
  exact touch_pointerDown_resembles begun.state listening' opened pairs single waits waits' q t'

/-- A pair is held, the host loses the end of its stream, and another pair lands: a long way apart
in the corners, and then the other way round. -/
theorem pair_of_exchanged_corners :
    let host : Host := .phone .oppositeCornersHold
    let c : Config := .forScreen .oppositeCornersHold 1080 1920
    let history := host.touches
      [⟨.down, 0, ⟨10, 10⟩, 0⟩, ⟨.pointerDown, 1, ⟨1070, 1910⟩, 50⟩]
    let r := (ofConfig c).run history
    let first := r.touch host ⟨.down, 7, ⟨0, 3⟩, 1000⟩
    let first' := r.touch host ⟨.down, 7, ⟨1080, 1917⟩, 1000⟩
    let second := first.state.touch host ⟨.pointerDown, 8, ⟨1080, 1917⟩, 1050⟩
    let second' := first'.state.touch host ⟨.pointerDown, 8, ⟨0, 3⟩, 1050⟩
    r.config.gesture.pairsPointers = true ∧ r.stage = .active ∧ second.answer = true ∧
      OutcomeAlike first first' ∧ OutcomeAlike second second' := by
  intro host c history r first first' second second'
  have pairs : r.config.gesture.pairsPointers = true := by decide +kernel
  have listening : host.exploring = false := rfl
  obtain ⟨_, _, alike⟩ := pair_of_exchanged c history pairs listening listening
  exact ⟨pairs, by decide +kernel, by decide +kernel, alike 7 8 ⟨0, 3⟩ ⟨1080, 1917⟩ 1000 1050⟩

end Recognizer
end ExitGesture
