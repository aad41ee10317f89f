import ExitGesture.Proofs.Completeness.Basic
import ExitGesture.Proofs.Order

/-!
# The header region

A header has no area if an edge is no number, or if edges are turned around or fall together.  Two
places ask for area in different words: a configuration is refused if the header is without it, and
a pair is refused if the header does not hold both contacts.  The words agree, because a rectangle
without area is one that holds no place.

**Cuts.**  An edge that two rectangles share belongs to one of them.  Cut anywhere between its
edges, a rectangle falls into two parts, and each place that it holds is held by one of them.

**Pairs.**  The header is asked for when a second pointer lands in time, and never again while the
pair is held.  A header without area refuses every pair.

**Results.**
* `Recognizer.active_after_iff`: which pairs are held in the header.
* `Rect.isEmpty_and_cut`: a header without area is never held, and what that rests on.
-/

namespace ExitGesture

/-! ### Rectangles -/

namespace Rect

variable {b : Rect} {p : Point} {s : Float32}

/-- The part of a rectangle on the left of a cut. -/
def leftOf (b : Rect) (s : Float32) : Rect := { b with right := s }

/-- The part of a rectangle on the right of a cut, with the cut. -/
def rightFrom (b : Rect) (s : Float32) : Rect := { b with left := s }

/-- A rectangle that holds a place has area. -/
theorem isEmpty_eq_false_of_contains (holds : b.contains p = true) : b.isEmpty = false := by
  obtain ⟨⟨⟨from_left, to_right⟩, from_top⟩, to_bottom⟩ := contains_iff.1 holds
  exact isEmpty_eq_false_iff.2
    ⟨Rounding.lt_of_le_of_lt from_left to_right, Rounding.lt_of_le_of_lt from_top to_bottom⟩

/-- A rectangle that has area holds its top left corner. -/
theorem contains_corner (area : b.isEmpty = false) : b.contains ⟨b.left, b.top⟩ = true := by
  obtain ⟨wide, high⟩ := isEmpty_eq_false_iff.1 area
  have at_left : b.left ≤ b.left := Rounding.le_self (Rounding.lt_iff.1 wide).1.1
  have at_top : b.top ≤ b.top := Rounding.le_self (Rounding.lt_iff.1 high).1.1
  exact contains_iff.2 ⟨⟨⟨at_left, wide⟩, at_top⟩, high⟩

/-- A rectangle without area is one that holds no place. -/
theorem isEmpty_iff : b.isEmpty = true ↔ ∀ p, b.contains p = false := by
  constructor
  · intro empty p
    by_contra holds
    rw [Bool.not_eq_false] at holds
    simp [isEmpty_eq_false_of_contains holds] at empty
  · intro none
    by_contra area
    rw [Bool.not_eq_true] at area
    have holds := contains_corner area
    simp [none _] at holds

theorem contains_leftOf_iff (to_right : s ≤ b.right) :
    (b.leftOf s).contains p = true ↔ b.contains p = true ∧ p.x < s := by
  rw [contains_iff, contains_iff]
  constructor
  · rintro ⟨⟨⟨from_left, before⟩, from_top⟩, to_bottom⟩
    exact ⟨⟨⟨⟨from_left, Rounding.lt_of_lt_of_le before to_right⟩, from_top⟩, to_bottom⟩, before⟩
  · rintro ⟨⟨⟨⟨from_left, _⟩, from_top⟩, to_bottom⟩, before⟩
    exact ⟨⟨⟨from_left, before⟩, from_top⟩, to_bottom⟩

theorem contains_rightFrom_iff (from_left : b.left ≤ s) :
    (b.rightFrom s).contains p = true ↔ b.contains p = true ∧ s ≤ p.x := by
  rw [contains_iff, contains_iff]
  constructor
  · rintro ⟨⟨⟨after, to_right⟩, from_top⟩, to_bottom⟩
    exact ⟨⟨⟨⟨Rounding.le_trans from_left after, to_right⟩, from_top⟩, to_bottom⟩, after⟩
  · rintro ⟨⟨⟨⟨_, to_right⟩, from_top⟩, to_bottom⟩, after⟩
    exact ⟨⟨⟨after, to_right⟩, from_top⟩, to_bottom⟩

/-- No place is held by both parts of a cut. -/
theorem not_both_parts (from_left : b.left ≤ s) (to_right : s ≤ b.right) :
    ¬ ((b.leftOf s).contains p = true ∧ (b.rightFrom s).contains p = true) := by
  rw [contains_leftOf_iff to_right, contains_rightFrom_iff from_left]
  rintro ⟨⟨_, before⟩, _, after⟩
  exact Rounding.not_lt_of_le after before

/-- What a rectangle holds, one part of a cut holds and the other does not. -/
theorem contains_eq_xor (from_left : b.left ≤ s) (to_right : s ≤ b.right) :
    b.contains p = ((b.leftOf s).contains p ^^ (b.rightFrom s).contains p) := by
  cases holds : b.contains p with
  | false =>
      have not_left : (b.leftOf s).contains p = false := by
        rw [← Bool.not_eq_true, contains_leftOf_iff to_right]
        simp [holds]
      have not_right : (b.rightFrom s).contains p = false := by
        rw [← Bool.not_eq_true, contains_rightFrom_iff from_left]
        simp [holds]
      rw [not_left, not_right]
      rfl
  | true =>
      have at_x : p.x.isNaN = false := (Rounding.lt_iff.1 (contains_iff.1 holds).1.1.2).1.1
      have at_s : s.isNaN = false := (Rounding.le_iff.1 to_right).1.1
      have apart := not_both_parts (p := p) from_left to_right
      rcases Rounding.lt_or_le at_x at_s with before | after
      · have left := (contains_leftOf_iff to_right).2 ⟨holds, before⟩
        rw [left, Bool.eq_false_iff.2 fun right => apart ⟨left, right⟩]
        rfl
      · have right := (contains_rightFrom_iff from_left).2 ⟨holds, after⟩
        rw [right, Bool.eq_false_iff.2 fun left => apart ⟨left, right⟩]
        rfl

end Rect

/-! ### Pairs -/

theorem Tracker.pairHold_of_react {τ : Tracker} {v : View} {s : Stimulus}
    {region : PairHold.Region} {p : PairHold.Phase}
    (reacts : (τ.react v s).1 = .pairHold region p) :
    ∃ p, τ = .pairHold region p := by
  rcases τ with ⟨region', q⟩ | q | q
  · cases s <;> cases reacts <;> exact ⟨q, rfl⟩
  · cases s <;> cases reacts
  · cases s <;> cases reacts

namespace Recognizer

variable {r : Recognizer} {m : Moment} {region : PairHold.Region} {first second : Contact}
  {timer : HoldTimer}

/-- A pointer waits for its partner, and another one lands in time.  Whether they are a pair is up
to the region. -/
structure Pairs (r : Recognizer) (region : PairHold.Region) (m : Moment)
    (first second : Contact) : Prop where
  waits : r.tracker = .pairHold region (.awaitingSecond first)
  lands : ∃ t, m.Hears t ∧ t.kind = .pointerDown ∧ ¬ (r.counted t).Crowded ∧ t.contact = second
  other : second.pointer ≠ first.pointer
  soon : second.time - first.time ≤ r.config.pairTimeout.millis

theorem stage_of_waits (waits : r.tracker = .pairHold region (.awaitingSecond first)) :
    r.stage = .pending :=
  congrArg Tracker.stage waits

/-- A pair that the region accepts is held. -/
theorem active_of_pairs (wf : r.WellFormed) (pairs : r.Pairs region m first second)
    (accepted : region.accepts (m.host.view r.config) first.position second.position = true) :
    (r.after m).stage = .active := by
  obtain ⟨t, ⟨listening, asked⟩, further, few, rfl⟩ := pairs.lands
  have begun : r.stage ≠ .idle := by simp [stage_of_waits pairs.waits]
  have pursues : r.Pursues r.config (.pairHold region (.awaitingSecond first)) :=
    ⟨wf, rfl, wf.opened begun, pairs.waits⟩
  have heard : m.stimulus? = some (.motion .land t.contact) := by
    simp [Moment.stimulus?, listening, asked, further, Touch.Kind.motion?]
  have joins : m.Joins r := by
    intro t' asked'
    obtain rfl : t = t' := Request.touch.inj (asked.symm.trans asked')
    exact ⟨by simp [further], fun _ => few⟩
  have holds := (pursues.proceed heard joins
    (PairHold.tracker_react_eq (PairHold.react_joined pairs.other pairs.soon accepted))).2.1
  rw [stage, holds.tracker]
  rfl

/-- The landing that makes a pair is neither the first of a stream nor one too many. -/
theorem further_of_active (wf : r.WellFormed) {h : Host} {t : Touch}
    (waits : r.tracker = .pairHold region (.awaitingSecond first)) (listening : h.exploring = false)
    (lands : t.kind.isDown = true) (active : (r.after ⟨h, .touch t⟩).stage = .active) :
    t.kind = .pointerDown ∧ ¬ (r.counted t).Crowded := by
  have begun : r.stage ≠ .idle := by simp [stage_of_waits waits]
  have further : t.kind = .pointerDown := by
    refine (Touch.Kind.isDown_iff.1 lands).resolve_left fun down => ?_
    have tracked : r.tracked ≠ [] := by
      simp [Recognizer.tracked, waits, Tracker.tracked, PairHold.Phase.tracked]
    have restarted := (touch_restarts wf (Or.inr tracked) listening down).2
    have pending : (r.after ⟨h, .touch t⟩).stage = .pending := by
      show (r.touch h t).state.stage = .pending
      rw [restarted]
      exact Tracker.stage_landed _ _
    simp [active] at pending
  refine ⟨further, fun many => ?_⟩
  have pursues : r.Pursues r.config r.tracker := ⟨wf, rfl, wf.opened begun, rfl⟩
  have cleared := (pursues.given_up listening (Or.inr ⟨further, many⟩)).2.tracker
  have idle : (r.after ⟨h, .touch t⟩).stage = .idle := by
    rw [stage, cleared]
    exact Tracker.stage_cleared _
  simp [active] at idle

/-- A pair that comes to be held was in time, and the region accepted it. -/
theorem pairs_of_active (wf : r.WellFormed) (inactive : r.stage ≠ .active)
    (holds : (r.after m).tracker = .pairHold region (.holding first second timer)) :
    r.Pairs region m first second ∧
      region.accepts (m.host.view r.config) first.position second.position = true := by
  have active : (r.after m).stage = .active := by
    rw [stage, holds]
    rfl
  cases effect_after wf m with
  | ended idle => simp [active] at idle
  | unheard _ _ _ tracker =>
      rw [stage, tracker] at active
      exact absurd active inactive
  | @heard τ s readied perceived lasts config tracker =>
      rw [holds] at tracker
      obtain ⟨p, rfl⟩ := Tracker.pairHold_of_react tracker.symm
      rw [PairHold.tracker_react] at lasts tracker
      have course := PairHold.course_of_lasts lasts
      have after : .holding first second timer =
          (PairHold.react region (m.host.view r.config) p s).1 := (Tracker.pairHold.inj tracker).2
      rw [← after] at course
      cases course with
      | hold =>
          -- what is held now was held before
          rcases readied with same | idle
          · rw [stage, ← same] at inactive
            exact absurd rfl inactive
          · cases idle
      | pair other soon accepted =>
          have waits : r.tracker = .pairHold region (.awaitingSecond first) := by
            rcases readied with same | idle
            · exact same.symm
            · cases idle
          refine ⟨⟨waits, ?_, other, soon⟩, accepted⟩
          obtain ⟨h, q⟩ := m
          obtain ⟨listening, ⟨now, _, ticks⟩ | ⟨t, k, asked, motion, moves⟩⟩ :=
            Moment.request_of_heard perceived
          · cases ticks
          · cases moves
            obtain rfl : q = .touch t := asked
            have lands : t.kind.isDown = true := by simp [Touch.Kind.isDown, motion]
            obtain ⟨further, few⟩ := further_of_active wf waits listening lands active
            exact ⟨t, ⟨listening, rfl⟩, further, few, rfl⟩

theorem holding_of_active (wf : r.WellFormed) (header : r.config.gesture = .twoFingerHeaderHold)
    (active : r.stage = .active) :
    ∃ first second timer, r.tracker = .pairHold .header (.holding first second timer) := by
  rw [← wf.gesture] at header
  rw [stage] at active
  generalize r.tracker = τ at header active
  cases τ with
  | edgeDrag p => cases header
  | tripleTap p => cases header
  | pairHold region p =>
      cases region with
      | oppositeCorners => cases header
      | header =>
          cases p with
          | idle => cases active
          | awaitingSecond first => cases active
          | holding first second timer => exact ⟨first, second, timer, rfl⟩

/-- A hold in the header begins exactly with a pair of which the header holds both contacts then. -/
theorem active_after_iff (wf : r.WellFormed) (header : r.config.gesture = .twoFingerHeaderHold)
    (inactive : r.stage ≠ .active) :
    (r.after m).stage = .active ↔
      ∃ first second, r.Pairs .header m first second ∧
        m.host.header.contains first.position = true ∧
        m.host.header.contains second.position = true := by
  have accepts_iff (a b : Point) :
      PairHold.Region.accepts (m.host.view r.config) a b .header = true ↔
        m.host.header.contains a = true ∧ m.host.header.contains b = true :=
    Bool.and_eq_true_iff
  constructor
  · intro active
    have config : (r.after m).config = r.config := config_after_of_begun wf (by simp [active])
    obtain ⟨first, second, timer, holds⟩ :=
      holding_of_active (wf.after m) ((congrArg Config.gesture config).trans header) active
    obtain ⟨pairs, accepted⟩ := pairs_of_active wf inactive holds
    exact ⟨first, second, pairs, (accepts_iff _ _).1 accepted⟩
  · rintro ⟨first, second, pairs, both⟩
    exact active_of_pairs wf pairs ((accepts_iff _ _).2 both)

/-- If the header is without area whenever a pair is up for it, no pair is ever held. -/
theorem not_active_of_headers_empty (c : Config) (history : List Moment)
    (empty : ∀ earlier d later, history = earlier ++ d :: later →
      ∀ first second, ((ofConfig c).run earlier).Pairs .header d first second →
        d.host.header.isEmpty = true)
    (header : ((ofConfig c).run history).config.gesture = .twoFingerHeaderHold) :
    ((ofConfig c).run history).stage ≠ .active := by
  induction history using List.reverseRecOn with
  | nil =>
      have idle : ((ofConfig c).run []).stage = .idle := Tracker.stage_ofGesture c.gesture
      simp [idle]
  | append_singleton history m ih =>
      have wf := (WellFormed.ofConfig c).run history
      rw [run_concat] at header ⊢
      intro active
      rw [config_after_of_begun wf (by simp [active])] at header
      have inactive : ((ofConfig c).run history).stage ≠ .active :=
        ih (fun earlier d later split => empty earlier d (later ++ [m]) (by simp [split])) header
      obtain ⟨first, second, pairs, holds, _⟩ := (active_after_iff wf header inactive).1 active
      simp [Rect.isEmpty_iff.1 (empty history m [] rfl first second pairs)] at holds

end Recognizer

/-! ### The header -/

namespace Rect

/-- A rectangle without area is one that holds no place.  A rectangle that is cut anywhere between
its edges holds what one of the two parts holds, and no place is in both.  A recognizer that holds
pairs in the header is never active if the header is without area whenever a pair is up for it. -/
theorem isEmpty_and_cut :
    (∀ b : Rect, b.isEmpty = true ↔ ∀ p, b.contains p = false) ∧
      (∀ (b : Rect) (s : Float32) (p : Point), b.left ≤ s → s ≤ b.right →
        b.contains p = ((b.leftOf s).contains p ^^ (b.rightFrom s).contains p) ∧
          ¬ ((b.leftOf s).contains p = true ∧ (b.rightFrom s).contains p = true)) ∧
      ∀ (c : Config) (history : List Moment),
        (∀ earlier d later, history = earlier ++ d :: later →
          ∀ first second, ((Recognizer.ofConfig c).run earlier).Pairs .header d first second →
            d.host.header.isEmpty = true) →
        ((Recognizer.ofConfig c).run history).config.gesture = .twoFingerHeaderHold →
          ((Recognizer.ofConfig c).run history).stage ≠ .active :=
  ⟨fun _ => isEmpty_iff,
    fun _ _ _ from_left to_right =>
      ⟨contains_eq_xor from_left to_right, not_both_parts from_left to_right⟩,
    Recognizer.not_active_of_headers_empty⟩

/-- A header is cut in the middle, and the place on the cut is in one of its parts.  Two pointers
that would be held in it are refused once it is gone. -/
theorem isEmpty_and_cut_phone :
    let b : Rect := ⟨0, 0, 1080, 160⟩
    let host : Host := .phone .twoFingerHeaderHold
    let c : Config := .forScreen .twoFingerHeaderHold 1080 1920
    let lands : Touch := ⟨.down, 0, ⟨500, 80⟩, 0⟩
    let joins : Touch := ⟨.pointerDown, 1, ⟨600, 80⟩, 50⟩
    let gone : List Moment := [⟨host, .touch lands⟩, ⟨{ host with header := zero }, .touch joins⟩]
    (b.contains ⟨540, 80⟩ = true ∧ (b.leftOf 540).contains ⟨540, 80⟩ = false ∧
        (b.rightFrom 540).contains ⟨540, 80⟩ = true) ∧
      ((Recognizer.ofConfig c).run (host.touches [lands])).stage = .pending ∧
      ((Recognizer.ofConfig c).run (host.touches [lands, joins])).stage = .active ∧
      ((Recognizer.ofConfig c).run gone).stage ≠ .active := by
  intro b host c lands joins gone
  have left : b.left ≤ 540 := by decide +kernel
  have right : 540 ≤ b.right := by decide +kernel
  have cut := (isEmpty_and_cut.2.1 b 540 ⟨540, 80⟩ left right).1
  have before : (b.leftOf 540).contains ⟨540, 80⟩ = false := by decide +kernel
  have within : b.contains ⟨540, 80⟩ = true := by decide +kernel
  rw [before, Bool.false_xor, within] at cut
  refine ⟨⟨within, before, cut.symm⟩, by decide +kernel, by decide +kernel, ?_⟩
  refine isEmpty_and_cut.2.2 c gone ?_ (by decide +kernel)
  intro earlier d later split first second pairs
  have one : d ∈ gone := by simp [split]
  rcases List.mem_pair.1 one with rfl | rfl
  · obtain ⟨t, ⟨_, asked⟩, further, _⟩ := pairs.lands
    cases asked
    cases further
  · decide +kernel

end Rect
end ExitGesture
