import ExitGesture.Proofs.Completeness.Basic
import ExitGesture.Proofs.Diagram
import ExitGesture.Proofs.Distance
import ExitGesture.Proofs.Snapshot
import ExitGesture.Proofs.Soundness.EdgeDrag
import ExitGesture.Proofs.Soundness.PairHold
import ExitGesture.Proofs.Soundness.TripleTap
import ExitGesture.Proofs.Validation

/-!
# Drift

A tracked pointer is measured from an anchor: from the contact that landed, and during a hold at an
edge from the place where the pointer arrived.  Only a pointer on its way to an edge has none.  A
move that is farther from the anchor than the tolerance ends the attempt, or else it finds the long
press over.  What is not farther need not be near, though: a distance that is no number is neither.

**Results.**
* `measuredFrom_of_anchor?`: the history behind an anchor.
* `unmeasured_iff_of_survives`: what an attempt outlives, in every run.
-/

namespace ExitGesture

/-! ### Anchors -/

namespace PairHold

variable {v : View} {p : Phase} {a c : Contact}

/-- The contacts that a pair is measured from. -/
def Phase.anchors : Phase → List Contact
  | .idle => []
  | .awaitingSecond first => [first]
  | .holding first second _ => [first, second]

theorem abandons_of_strayed (region : Region)
    (anchored : p.anchors.find? (·.pointer = c.pointer) = some a)
    (strayed : v.strays (a.drift c) = true) :
    ∃ why, (react region v p (.motion .move c)).2 = .abandon why := by
  cases p with
  | idle => cases anchored
  | awaitingSecond first =>
      by_cases same : first.pointer = c.pointer
      · obtain rfl : first = a := by simpa [Phase.anchors, same] using anchored
        by_cases late : expired v first c.time = true
        · exact ⟨.pairingTimeout, by simp [react, step, move, same, late]⟩
        · exact ⟨.drift, by simp [react, step, move, same, late, strayed]⟩
      · simp [Phase.anchors, same] at anchored
  | holding first second timer =>
      have strays : ([first, second].find? (·.pointer = c.pointer)).any
          (fun anchor => v.strays (anchor.drift c)) = true := by
        rw [show [first, second].find? (·.pointer = c.pointer) = some a from anchored]
        exact strayed
      exact ⟨.drift, by simp only [react, step, move, strays, if_true]⟩

theorem stays_of_near (region : Region)
    (anchored : p.anchors.find? (·.pointer = c.pointer) = some a)
    (near : v.strays (a.drift c) = false) :
    (react region v p (.motion .move c)).2 ≠ .abandon .drift := by
  cases p with
  | idle => cases anchored
  | awaitingSecond first =>
      by_cases same : first.pointer = c.pointer
      · obtain rfl : first = a := by simpa [Phase.anchors, same] using anchored
        by_cases late : expired v first c.time = true
        · simp [react, step, move, same, late]
        · simp [react, step, move, same, late, near]
      · simp [Phase.anchors, same] at anchored
  | holding first second timer =>
      have near_both : ([first, second].find? (·.pointer = c.pointer)).any
          (fun anchor => v.strays (anchor.drift c)) = false := by
        rw [show [first, second].find? (·.pointer = c.pointer) = some a from anchored]
        exact near
      rw [react_near near_both]
      exact timer.advance_ne_abandon _ _ _

end PairHold

namespace EdgeDrag

variable {v : View} {p : Phase} {a c : Contact}

/-- The contact that a press or a hold at an edge is measured from. -/
def Phase.anchor? : Phase → Option Contact
  | .pressed press _ => some press
  | .holding pointer anchor timer => some ⟨pointer, anchor, timer.since⟩
  | .idle | .dragging _ => none

/-- A pointer that strays when the long press is over is dragged. -/
theorem moves_on_of_strayed (anchored : p.anchor? = some a) (same : a.pointer = c.pointer)
    (strayed : v.strays (a.drift c) = true) :
    (∃ why, (react v p (.motion .move c)).2 = .abandon why) ∨
      (react v p (.motion .move c)).2 = .proceed true ∧
        (react v p (.motion .move c)).1.awaiting ≠ p.awaiting := by
  cases p with
  | idle => cases anchored
  | pressed press last =>
      obtain rfl := Option.some.inj anchored
      by_cases long : pressedLong v press c.time = true
      · right
        by_cases edge : v.surface.isAtEdge c.position = true
        · simp [react, step, follow, Phase.tracked?, same, long, arrive, edge, Phase.awaiting]
        · simp [react, step, follow, Phase.tracked?, same, long, arrive, edge, Phase.awaiting]
      · exact Or.inl ⟨.drift, by simp [react, step, follow, Phase.tracked?, same, long, strayed]⟩
  | dragging pointer => cases anchored
  | holding pointer anchor timer =>
      obtain rfl := Option.some.inj anchored
      left
      replace strayed : v.strays (anchor.distance c.position) = true := strayed
      replace same : pointer = c.pointer := same
      by_cases edge : v.surface.isAtEdge c.position = true
      · exact ⟨.drift, by simp [react, step, follow, Phase.tracked?, same, edge, strayed]⟩
      · exact ⟨.leftEdge, by simp [react, step, follow, Phase.tracked?, same, edge]⟩

theorem stays_of_near (anchored : p.anchor? = some a) (same : a.pointer = c.pointer)
    (near : v.strays (a.drift c) = false) :
    (react v p (.motion .move c)).2 ≠ .abandon .drift := by
  cases p with
  | idle => cases anchored
  | pressed press last =>
      obtain rfl := Option.some.inj anchored
      by_cases long : pressedLong v press c.time = true
      · simp [react, step, follow, Phase.tracked?, same, long]
      · simp [react, step, follow, Phase.tracked?, same, long, near]
  | dragging pointer => cases anchored
  | holding pointer anchor timer =>
      obtain rfl := Option.some.inj anchored
      replace near : v.strays (anchor.distance c.position) = false := near
      replace same : pointer = c.pointer := same
      by_cases edge : v.surface.isAtEdge c.position = true
      · simpa [react, step, follow, Phase.tracked?, same, edge, near] using
          timer.advance_ne_abandon v.config c.time .drift
      · simp [react, step, follow, Phase.tracked?, same, edge]

end EdgeDrag

namespace TripleTap

variable {v : View} {p : Phase} {a c : Contact}

/-- The contact that a tap is measured from. -/
def Phase.anchor? : Phase → Option Contact
  | .idle => none
  | .tapping _ _ _ pressed => pressed

theorem abandons_of_strayed (anchored : p.anchor? = some a) (same : a.pointer = c.pointer)
    (strayed : v.strays (a.drift c) = true) :
    (react v p (.motion .move c)).2 = .abandon .drift := by
  cases p with
  | idle => cases anchored
  | tapping anchor lastDown completed pressed =>
      obtain rfl : pressed = some a := anchored
      simp [react, step, move, same, strayed]

theorem stays_of_near (anchored : p.anchor? = some a) (same : a.pointer = c.pointer)
    (near : v.strays (a.drift c) = false) :
    (react v p (.motion .move c)).2 ≠ .abandon .drift := by
  cases p with
  | idle => cases anchored
  | tapping anchor lastDown completed pressed =>
      obtain rfl : pressed = some a := anchored
      simp [react, step, move, same, near]

end TripleTap

namespace Tracker

variable {v : View} {τ : Tracker} {a c : Contact}

/-- The contacts that pointers are measured from. -/
def anchors : Tracker → List Contact
  | .pairHold _ p => p.anchors
  | .edgeDrag p => p.anchor?.toList
  | .tripleTap p => p.anchor?.toList

/-- The contact that a pointer is measured from. -/
def anchor? (τ : Tracker) (pointer : PointerId) : Option Contact :=
  τ.anchors.find? (·.pointer = pointer)

theorem mem_of_anchor? {pointer : PointerId} (anchored : τ.anchor? pointer = some a) :
    a ∈ τ.anchors ∧ a.pointer = pointer :=
  ⟨List.mem_of_find?_eq_some anchored, by simpa using List.find?_some anchored⟩

/-- Every tracked pointer has an anchor, unless it is on its way to an edge. -/
theorem exists_anchor (tracked : c.pointer ∈ τ.tracked) (measured : τ.awaiting ≠ some .edge) :
    ∃ a, τ.anchor? c.pointer = some a := by
  have tracked_anchors : τ.tracked = τ.anchors.map Contact.pointer := by
    rcases τ with ⟨region, p⟩ | p | p
    · cases p <;> rfl
    · cases p with
      | dragging pointer => exact absurd rfl measured
      | idle => rfl
      | pressed press last => rfl
      | holding pointer anchor timer => rfl
    · cases p with
      | idle => rfl
      | tapping anchor lastDown completed pressed => cases pressed <;> rfl
  rw [tracked_anchors] at tracked
  obtain ⟨a, anchor, same⟩ := List.mem_map.1 tracked
  exact Option.isSome_iff_exists.1 (List.find?_isSome.2 ⟨a, anchor, decide_eq_true same⟩)

/-- A move of a pointer that has strayed ends the attempt, or leads to another phase. -/
theorem moves_on_of_strayed (anchored : τ.anchor? c.pointer = some a)
    (strayed : v.strays (a.drift c) = true) :
    (∃ why, (τ.react v (.motion .move c)).2 = .abandon why) ∨
      (τ.react v (.motion .move c)).2 = .proceed true ∧
        (τ.react v (.motion .move c)).1.awaiting ≠ τ.awaiting := by
  cases τ with
  | pairHold region p =>
      rw [PairHold.tracker_react]
      exact Or.inl (PairHold.abandons_of_strayed region anchored strayed)
  | edgeDrag p =>
      rw [EdgeDrag.tracker_react]
      obtain ⟨mem, same⟩ := mem_of_anchor? anchored
      exact EdgeDrag.moves_on_of_strayed (Option.mem_toList.1 mem) same strayed
  | tripleTap p =>
      rw [TripleTap.tracker_react]
      obtain ⟨mem, same⟩ := mem_of_anchor? anchored
      exact Or.inl ⟨.drift, TripleTap.abandons_of_strayed (Option.mem_toList.1 mem) same strayed⟩

/-- A move of a pointer that has not strayed does not count as drift. -/
theorem stays_of_near (anchored : τ.anchor? c.pointer = some a)
    (near : v.strays (a.drift c) = false) :
    (τ.react v (.motion .move c)).2 ≠ .abandon .drift := by
  cases τ with
  | pairHold region p =>
      rw [PairHold.tracker_react]
      exact PairHold.stays_of_near region anchored near
  | edgeDrag p =>
      rw [EdgeDrag.tracker_react]
      obtain ⟨mem, same⟩ := mem_of_anchor? anchored
      exact EdgeDrag.stays_of_near (Option.mem_toList.1 mem) same near
  | tripleTap p =>
      rw [TripleTap.tracker_react]
      obtain ⟨mem, same⟩ := mem_of_anchor? anchored
      exact TripleTap.stays_of_near (Option.mem_toList.1 mem) same near

end Tracker

/-! ### The places of the anchors -/

/-- A pointer landed at a place, and has not landed since. -/
def LandedAt (pointer : PointerId) (place : Point) (history : List Moment) : Prop :=
  Since (fun _ d => ∃ b, d.Lands b ∧ b.pointer = pointer ∧ b.position = place)
    (fun n => ∀ b, n.Lands b → b.pointer ≠ pointer) history

/-- Nobody lands while nothing interrupts. -/
theorem Moment.Keeps.not_lands {P : Stimulus → Prop} {m : Moment} (keeps : m.Keeps P)
    (b : Contact) : ¬ m.Lands b := by
  intro lands
  obtain ⟨listening, asks⟩ := Moment.request_of_heard lands
  rcases asks with ⟨now, _, ticks⟩ | ⟨t, k, asked, motion, moves⟩
  · cases ticks
  · cases moves
    exact keeps.goes_on
      (Or.inr ⟨listening, t, asked, Or.inl (by simp [Touch.Kind.isDown, motion])⟩)

theorem landedAt_of_since {P : List Moment → Moment → Prop} {Q : Stimulus → Prop} {a : Contact}
    {history : List Moment} (since : Since P (Moment.Keeps Q) history)
    (lands : ∀ before d, P before d → d.Lands a) : LandedAt a.pointer a.position history := by
  obtain ⟨before, d, after, rfl, at_d, after_d⟩ := since
  exact ⟨before, d, after, rfl, ⟨a, lands before d at_d, rfl, rfl⟩,
    fun n mem b landed => absurd landed ((after_d n mem).not_lands b)⟩

theorem LandedAt.extend {pointer : PointerId} {place : Point} {history : List Moment} {m : Moment}
    {after : List Moment} (landed : LandedAt pointer place history)
    (other : ∀ b, m.Lands b → b.pointer ≠ pointer)
    (later : ∀ n ∈ after, ∀ b, n.Lands b → b.pointer ≠ pointer) :
    LandedAt pointer place (history ++ m :: after) := by
  obtain ⟨before, d, between, rfl, at_d, after_d⟩ := landed
  refine ⟨before, d, between ++ m :: after, by simp, at_d, ?_⟩
  exact List.forall_mem_append.2 ⟨after_d, List.forall_mem_cons.2 ⟨other, later⟩⟩

theorem PairHold.landedAt {c : Config} {region : Region} {history : List Moment} {p : Phase}
    {a : Contact} (told : Behind c region history p) (anchors : a ∈ p.anchors) :
    LandedAt a.pointer a.position history := by
  cases p with
  | idle => cases anchors
  | awaitingSecond first =>
      rw [List.mem_singleton.1 anchors]
      exact landedAt_of_since told fun _ _ lands => lands
  | holding first second timer =>
      obtain ⟨together, _⟩ := told
      rcases List.mem_pair.1 anchors with rfl | rfl
      · obtain ⟨front, d, after, rfl, joins, kept⟩ := together
        have alone : LandedAt a.pointer a.position front :=
          landedAt_of_since joins.alone fun _ _ lands => lands
        refine alone.extend ?_ fun n mem b landed => absurd landed ((kept n mem).not_lands b)
        intro b landed
        have same : b = second := by
          have heard := landed.symm.trans joins.lands
          cases heard
          rfl
        rw [same]
        exact joins.other
      · exact landedAt_of_since together fun _ _ joins => joins.lands

theorem TripleTap.landedAt {c : Config} {history : List Moment} {p : Phase} {a : Contact}
    (told : Behind c history p) (anchors : p.anchor? = some a) :
    LandedAt a.pointer a.position history := by
  cases p with
  | idle => cases anchors
  | tapping anchor lastDown completed pressed =>
      obtain rfl : pressed = some a := anchors
      obtain ⟨_, _, first, _, pressing⟩ := told
      refine landedAt_of_since pressing fun before d opens => ?_
      cases opens with
      | row lands => exact lands
      | next _ lands => exact lands

namespace EdgeDrag

theorem holding_of_arrive {v : View} {pointer p : PointerId} {place anchor : Point} {now : Time}
    {timer : HoldTimer} (holds : .holding p anchor timer = arrive v pointer place now) :
    p = pointer ∧ anchor = place := by
  unfold arrive at holds
  split at holds
  · cases holds
    exact ⟨rfl, rfl⟩
  · cases holds

/-- A hold goes on with the anchor that it has, or begins where its pointer is found. -/
theorem holding_cases {v : View} {p : Phase} {s : Stimulus} {pointer : PointerId} {anchor : Point}
    {timer : HoldTimer} (lasts : (react v p s).2.lasts = true)
    (holds : (react v p s).1 = .holding pointer anchor timer) :
    (∃ timer', p = .holding pointer anchor timer') ∨
      p.stage = .pending ∧ ((∃ press last, p = .pressed press last ∧ press.pointer = pointer ∧
          s.Finds pointer last anchor) ∨
        s = .motion .move ⟨pointer, anchor, s.time⟩) := by
  have course := course_of_lasts lasts
  rw [holds] at course
  generalize reached : Phase.holding pointer anchor timer = p' at course
  cases course with
  | rest => cases reached
  | press contact => cases reached
  | wait presses => cases reached
  | @promote press last place _ found long =>
      obtain ⟨rfl, rfl⟩ := holding_of_arrive reached
      exact Or.inr ⟨rfl, Or.inl ⟨press, last, rfl, rfl, found⟩⟩
  | stray none_lands down => cases reached
  | @follow pointer' b same =>
      obtain ⟨rfl, rfl⟩ := holding_of_arrive reached
      refine Or.inr ⟨rfl, Or.inr ?_⟩
      rw [← same]
      rfl
  | hold goes_on since =>
      cases reached
      exact Or.inl ⟨_, rfl⟩

theorem exists_phase_of_react {v : View} {τ : Tracker} {s : Stimulus} {p' : Phase}
    (lasts : (τ.react v s).2.lasts = true) (reached : (τ.react v s).1 = .edgeDrag p') :
    ∃ p, τ = .edgeDrag p ∧ (react v p s).2.lasts = true ∧ (react v p s).1 = p' := by
  cases τ with
  | pairHold region p =>
      rw [PairHold.tracker_react] at reached
      cases reached
  | edgeDrag p =>
      rw [tracker_react] at lasts reached
      exact ⟨p, rfl, lasts, Tracker.edgeDrag.inj reached⟩
  | tripleTap p =>
      rw [TripleTap.tracker_react] at reached
      cases reached

/-- Where a stimulus finds a pointer is where it is reported last. -/
theorem lastPlace?_of_finds {history : List Moment} {m : Moment} {s : Stimulus}
    {pointer : PointerId} {last place : Point} (heard : m.stimulus? = some s)
    (seen : lastPlace? pointer history = some last) (finds : s.Finds pointer last place) :
    lastPlace? pointer (history ++ [m]) = some place := by
  rw [lastPlace?_concat, heard]
  cases s with
  | tick now =>
      obtain rfl : last = place := finds
      exact seen
  | motion k b =>
      cases k with
      | land => exact finds.elim
      | lift => exact finds.elim
      | move =>
          obtain ⟨same, rfl⟩ := finds
          simp [Stimulus.place?, same]

end EdgeDrag

namespace Recognizer

/-- A hold became active with its pointer at a place, and has been active since. -/
def ArrivedAt (c : Config) (pointer : PointerId) (place : Point) (history : List Moment) : Prop :=
  EverSince
    (fun earlier e => ((ofConfig c).run earlier).stage ≠ .active ∧
      lastPlace? pointer (earlier ++ [e]) = some place)
    (fun part => ((ofConfig c).run part).stage = .active) history

theorem arrivedAt_of_holding (c : Config) (history : List Moment) {pointer : PointerId}
    {anchor : Point} {timer : HoldTimer}
    (holds : ((ofConfig c).run history).tracker = .edgeDrag (.holding pointer anchor timer)) :
    ArrivedAt c pointer anchor history := by
  -- from the end, the hold was there before the last moment or begins with it
  induction history using List.reverseRecOn generalizing timer with
  | nil =>
      have idle := Tracker.stage_ofGesture c.gesture
      rw [show Tracker.ofGesture c.gesture = .edgeDrag (.holding pointer anchor timer) from holds]
        at idle
      cases idle
  | append_singleton history m ih =>
      have wf := (WellFormed.ofConfig c).run history
      have told := EdgeDrag.explains.holds_of_run c history
      have active : ((ofConfig c).run (history ++ [m])).stage = .active :=
        congrArg Tracker.stage holds
      rw [run_concat] at holds
      cases effect_after wf m with
      | ended idle =>
          rw [stage, holds] at idle
          cases idle
      | unheard _ _ _ tracker => exact (ih (tracker.symm.trans holds)).concat active
      | @heard τ s readied perceived lasts _ tracker =>
          rw [tracker] at holds
          obtain ⟨p, rfl, lasts, holds⟩ := EdgeDrag.exists_phase_of_react lasts holds
          have still (begun : p.stage ≠ .idle) :
              ((ofConfig c).run history).tracker = .edgeDrag p := by
            rcases readied with same | idle
            · exact same.symm
            · exact absurd idle begun
          rcases EdgeDrag.holding_cases lasts holds with ⟨timer', rfl⟩ | ⟨pending, arrives⟩
          · exact (ih (still Stage.noConfusion)).concat active
          · have same := still (by simp [pending])
            rw [same] at told
            have inactive : ((ofConfig c).run history).stage ≠ .active := by
              rw [stage, same]
              simp [Tracker.stage, pending]
            refine everSince_of_now ⟨inactive, ?_⟩ active
            rcases arrives with ⟨press, last, rfl, rfl, finds⟩ | moves
            · exact EdgeDrag.lastPlace?_of_finds perceived told.2 finds
            · rw [lastPlace?_concat, perceived, moves]
              simp [Stimulus.place?]

/-- The place that the drift of a pointer is measured from: where it was when the hold at an edge
became active, and otherwise where it landed. -/
def MeasuredFrom (c : Config) (history : List Moment) (pointer : PointerId) (place : Point) :
    Prop :=
  if ((ofConfig c).run history).config.gesture = .singleFingerEdgeDragHold ∧
      ((ofConfig c).run history).stage = .active then
    ArrivedAt c pointer place history
  else LandedAt pointer place history

theorem measuredFrom_of_anchor? (c : Config) (history : List Moment) {pointer : PointerId}
    {a : Contact} (anchored : ((ofConfig c).run history).tracker.anchor? pointer = some a) :
    MeasuredFrom c history pointer a.position := by
  have wf := (WellFormed.ofConfig c).run history
  have pair := PairHold.explains.holds_of_run c history
  have drag := EdgeDrag.explains.holds_of_run c history
  have taps := TripleTap.explains.holds_of_run c history
  obtain ⟨anchor, rfl⟩ := Tracker.mem_of_anchor? anchored
  unfold MeasuredFrom
  rw [← wf.gesture, stage]
  cases tracker : ((ofConfig c).run history).tracker with
  | pairHold region p =>
      rw [tracker] at anchor pair
      have other : (Tracker.pairHold region p).gesture ≠ .singleFingerEdgeDragHold := by
        cases region <;> exact Gesture.noConfusion
      rw [if_neg fun both => other both.1]
      exact PairHold.landedAt pair anchor
  | edgeDrag p =>
      rw [tracker] at anchor drag
      replace anchor : p.anchor? = some a := Option.mem_toList.1 anchor
      cases p with
      | idle => cases anchor
      | pressed press last =>
          obtain rfl := Option.some.inj anchor
          rw [if_neg fun both => Stage.noConfusion both.2]
          exact landedAt_of_since drag.1 fun _ _ lands => lands
      | dragging pointer => cases anchor
      | holding pointer place timer =>
          obtain rfl := Option.some.inj anchor
          rw [if_pos ⟨rfl, rfl⟩]
          exact arrivedAt_of_holding c history tracker
  | tripleTap p =>
      rw [tracker] at anchor taps
      rw [if_neg fun both => Gesture.noConfusion both.1]
      exact TripleTap.landedAt taps (Option.mem_toList.1 anchor)

/-! ### Moves of tracked pointers -/

/-- A valid tolerance is a number. -/
theorem isNaN_driftTolerance {c : Config} (valid : c.validate = .ok ()) :
    c.driftTolerance.isNaN = false := by
  have parts := Config.fault?_eq_none_iff.1 (Config.validate_eq_ok_iff.1 valid)
  have admitted : (c.driftTolerance.isFinite && 0 ≤ c.driftTolerance) = true :=
    parts.2.2 .driftTolerance
  exact Rounding.isNaN_of_isFinite (Bool.and_eq_true_iff.1 admitted).1

/-- An attempt outlives a touch in its phase, or the touch fires. -/
def Survives (r : Recognizer) (h : Host) (t : Touch) : Prop :=
  ((r.touch h t).state.stage = r.stage ∧ (r.touch h t).state.awaiting = r.awaiting) ∨
    Signal.triggered ∈ (r.touch h t).signals

instance (r : Recognizer) (h : Host) (t : Touch) : Decidable (r.Survives h t) :=
  inferInstanceAs (Decidable (_ ∨ _))

section Move

variable {r : Recognizer} {h : Host} {t : Touch} {a : Contact}

theorem not_survives_of_strayed (begun : r.stage ≠ .idle)
    (steps : r.touch h t = r.advance (r.tracker.react (r.view h) (.motion .move t.contact)) t.time
      false)
    (anchored : r.tracker.anchor? t.pointer = some a)
    (strayed : r.config.driftTolerance < a.drift t.contact) : ¬ r.Survives h t := by
  have strays : (r.view h).strays (a.drift t.contact) = true := decide_eq_true strayed
  unfold Survives
  rw [steps, triggered_mem_advance]
  rcases Tracker.moves_on_of_strayed (c := t.contact) anchored strays with
    ⟨why, abandoned⟩ | ⟨goes_on, leaves⟩
  · rw [state_advance_of_abandon _ _ _ _ abandoned, abandoned]
    rintro (⟨stays, _⟩ | fires)
    · exact begun (stays.symm.trans (stage_abandon _ _))
    · cases fires
  · rw [state_advance_of_lasts _ _ _ _ (by rw [goes_on]; rfl), goes_on]
    rintro (⟨_, stays⟩ | fires)
    · exact leaves stays
    · cases fires

theorem no_drift_of_near
    (steps : r.touch h t = r.advance (r.tracker.react (r.view h) (.motion .move t.contact)) t.time
      false)
    (anchored : r.tracker.anchor? t.pointer = some a)
    (near : ¬ r.config.driftTolerance < a.drift t.contact) :
    Signal.log (.abandoned .drift) ∉ (r.touch h t).signals := by
  have stays : (r.view h).strays (a.drift t.contact) = false := decide_eq_false near
  rw [steps]
  intro logged
  exact Tracker.stays_of_near (c := t.contact) anchored stays (verdict_of_logged logged)

end Move

/-- What the drift checks let pass.  If an attempt outlives a move of a pointer that it measures, or
the move fires, then the pointer is within the tolerance of its anchor, or it has no distance from
it; and a pointer without a distance never counts as having strayed. -/
theorem unmeasured_iff_of_survives (c : Config) (history : List Moment) {h : Host} {t : Touch}
    (valid : c.validate = .ok ()) (listening : h.exploring = false) (moves : t.kind = .move)
    (tracked : t.pointer ∈ ((ofConfig c).run history).tracked)
    (measured : ((ofConfig c).run history).awaiting ≠ some .edge) :
    let r := (ofConfig c).run history
    ∃ place, MeasuredFrom c history t.pointer place ∧
      (r.Survives h t → (¬ place.distance t.position ≤ r.config.driftTolerance ↔
        place.Unmeasured t.position)) ∧
      (place.Unmeasured t.position → Signal.log (.abandoned .drift) ∉ (r.touch h t).signals) := by
  intro r
  have wf : r.WellFormed := (WellFormed.ofConfig c).run history
  have number : r.config.driftTolerance.isNaN = false :=
    isNaN_driftTolerance (validate_run valid history)
  have begun : r.stage ≠ .idle := begun_of_tracked tracked
  obtain ⟨a, anchored⟩ := Tracker.exists_anchor (c := t.contact) tracked measured
  have steps : r.touch h t =
      r.advance (r.tracker.react (r.view h) (.motion .move t.contact)) t.time false :=
    touch_move listening (wf.opened begun) moves
  refine ⟨a.position, measuredFrom_of_anchor? c history anchored, ?_, ?_⟩
  · intro survives
    have near : ¬ r.config.driftTolerance < a.drift t.contact := fun strayed =>
      not_survives_of_strayed begun steps anchored strayed survives
    rw [← Point.isNaN_distance_iff]
    constructor
    · exact ((Rounding.not_lt_iff number).1 near).resolve_left
    · exact Rounding.not_le_of_isNaN
  · intro unmeasured
    refine no_drift_of_near steps anchored fun strayed => ?_
    have nothing := Point.isNaN_distance_iff.2 unmeasured
    exact (Rounding.not_lt_iff number).2 (Or.inr nothing) strayed

/-- A pair stays held by a move to no place at all, and is given up for a move to the middle. -/
theorem unmeasured_iff_of_survives_corners :
    let host : Host := .phone .oppositeCornersHold
    let c : Config := .forScreen .oppositeCornersHold 1080 1920
    let history := host.touches
      [⟨.down, 0, ⟨10, 10⟩, 0⟩, ⟨.pointerDown, 1, ⟨1070, 1910⟩, 50⟩]
    let r := (ofConfig c).run history
    let move (place : Point) : Touch := ⟨.move, 0, place, 500⟩
    let nowhere : Point := ⟨0 / 0, 20⟩
    r.Survives host (move nowhere) ∧ r.Survives host (move ⟨20, 20⟩) ∧
      ¬ r.Survives host (move ⟨540, 960⟩) ∧
      ∃ place, MeasuredFrom c history 0 place ∧
        ¬ place.distance nowhere ≤ r.config.driftTolerance := by
  intro host c history r move nowhere
  have survives : r.Survives host (move nowhere) := by decide +kernel
  obtain ⟨place, from_place, passed, _⟩ :=
    unmeasured_iff_of_survives c history (h := host) (t := move nowhere)
      (by decide +kernel) rfl rfl (by decide +kernel) (by decide +kernel)
  have unmeasured : place.Unmeasured nowhere := Or.inl (Or.inr (Or.inl (by decide +kernel)))
  exact ⟨survives, by decide +kernel, by decide +kernel, place, from_place,
    (passed survives).2 unmeasured⟩

/-- A pair that is held fires by a move of one of its pointers to no place at all. -/
theorem nowhere_fires :
    let host : Host := .phone .oppositeCornersHold
    let c : Config := .forScreen .oppositeCornersHold 1080 1920
    let r := (ofConfig c).run (host.touches
      [⟨.down, 0, ⟨10, 10⟩, 0⟩, ⟨.pointerDown, 1, ⟨1070, 1910⟩, 50⟩])
    let move : Touch := ⟨.move, 0, ⟨0 / 0, 0 / 0⟩, 2550⟩
    c.validate = .ok () ∧ host.exploring = false ∧ move.pointer ∈ r.tracked ∧
      move.position.x.isNaN = true ∧ r.stage = .active ∧
      Signal.triggered ∈ (r.touch host move).signals ∧
      ¬ (⟨10, 10⟩ : Point).distance move.position ≤ r.config.driftTolerance := by
  decide +kernel

end Recognizer
end ExitGesture
