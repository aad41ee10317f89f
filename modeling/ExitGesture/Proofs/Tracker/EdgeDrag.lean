import ExitGesture.Proofs.Stimulus
import Mathlib.Tactic.SplitIfs

/-!
# The course of a drag to an edge

What one stimulus does to a drag.  All that is said of it here comes from one list of what can
happen, `Reaction`.
-/

namespace ExitGesture
namespace EdgeDrag

variable {v : View}

def react (v : View) (p : Phase) : Stimulus → Phase × Verdict
  | .motion k c => step v p k c
  | .tick now => tick v now p

theorem tracker_react (p : Phase) (s : Stimulus) :
    (Tracker.edgeDrag p).react v s = (react v p s).map .edgeDrag id := by
  cases s <;> rfl

theorem tracker_react_eq {p p' : Phase} {s : Stimulus} {w : Verdict}
    (reacts : react v p s = (p', w)) : (Tracker.edgeDrag p).react v s = (.edgeDrag p', w) := by
  rw [tracker_react, reacts]
  rfl

/-- A stimulus lets a press go on: the pointer stays down, has not moved far, and the long press is
not over. -/
structure Presses (c : Config) (press : Contact) (s : Stimulus) : Prop where
  none_lands : s.LandsNone
  spared : s.Spares c.driftTolerance press
  move_early : s.OnMove press.pointer fun b => b.time - press.time < c.longPress.millis
  tick_early : s.OnTick fun now => now - press.time < c.longPress.millis

/-- A stimulus lets a hold at an edge go on: the pointer stays down, at an edge, and near the place
where it arrived. -/
structure Holds (surface : Surface) (tolerance : Float32) (pointer : PointerId) (anchor : Point)
    (s : Stimulus) : Prop where
  none_lands : s.LandsNone
  down : s.LeavesDown pointer
  at_edge : s.OnMove pointer fun b => surface.isAtEdge b.position = true
  near : s.OnMove pointer fun b => ¬ tolerance < anchor.distance b.position

/-- The ways of an attempt that lasts. -/
inductive Course (v : View) : Phase → Stimulus → Phase → Prop
  | rest {s : Stimulus} (none_lands : s.LandsNone) : Course v .idle s .idle
  | press (c : Contact) : Course v .idle (.motion .land c) (.pressed c c.position)
  | wait {press : Contact} {last : Point} {s : Stimulus}
      (presses : Presses v.config press s) :
      Course v (.pressed press last) s (.pressed press ((s.place? press.pointer).getD last))
  | promote {press : Contact} {last place : Point} {s : Stimulus}
      (found : s.Finds press.pointer last place)
      (long : v.config.longPress.millis ≤ s.time - press.time) :
      Course v (.pressed press last) s (arrive v press.pointer place s.time)
  | stray {pointer : PointerId} {s : Stimulus} (none_lands : s.LandsNone)
      (down : s.LeavesDown pointer) :
      Course v (.dragging pointer) s (.dragging pointer)
  | follow {pointer : PointerId} {b : Contact} (same : b.pointer = pointer) :
      Course v (.dragging pointer) (.motion .move b) (arrive v pointer b.position b.time)
  | hold {pointer : PointerId} {anchor : Point} {timer timer' : HoldTimer} {s : Stimulus}
      (holds : Holds v.surface v.config.driftTolerance pointer anchor s)
      (since : timer'.since = timer.since) :
      Course v (.holding pointer anchor timer) s (.holding pointer anchor timer')

section React

variable {press : Contact} {last place anchor : Point} {pointer : PointerId} {timer : HoldTimer}
  {s : Stimulus}

theorem react_waits (early : ¬ v.config.longPress.millis ≤ s.time - press.time)
    (near : s.Steady fun b =>
      b.pointer = press.pointer ∧ ¬ v.config.driftTolerance < press.drift b) :
    react v (.pressed press last) s =
      (.pressed press ((s.place? press.pointer).getD last), .proceed false) := by
  cases s with
  | tick now =>
      have short : pressedLong v press now = false := by simpa [pressedLong] using early
      simp [react, tick, short, Stimulus.place?]
  | motion k b =>
      cases k with
      | land => exact near.elim
      | lift => exact near.elim
      | move =>
          obtain ⟨same, near⟩ := near
          have short : pressedLong v press b.time = false := by simpa [pressedLong] using early
          simp [react, step, follow, Phase.tracked?, same, short, View.not_strays_iff.2 near,
            Stimulus.place?]

theorem react_found (found : s.Finds press.pointer last place)
    (long : v.config.longPress.millis ≤ s.time - press.time) :
    react v (.pressed press last) s =
      (arrive v press.pointer place s.time, .proceed true) := by
  cases s with
  | tick now =>
      obtain rfl : last = place := found
      have passed : pressedLong v press now = true := by simpa [pressedLong] using long
      simp [react, tick, passed]
  | motion k b =>
      cases k with
      | land => exact found.elim
      | lift => exact found.elim
      | move =>
          obtain ⟨same, rfl⟩ := found
          have passed : pressedLong v press b.time = true := by simpa [pressedLong] using long
          simp [react, step, follow, Phase.tracked?, same, passed]

theorem react_follow {b : Contact} (same : b.pointer = pointer) :
    react v (.dragging pointer) (.motion .move b) =
      (arrive v pointer b.position b.time, .proceed true) := by
  simp [react, step, follow, Phase.tracked?, same]

theorem react_drags
    (off : s.Steady fun b => b.pointer = pointer ∧ v.surface.isAtEdge b.position = false) :
    react v (.dragging pointer) s = (.dragging pointer, .proceed true) := by
  cases s with
  | tick now => rfl
  | motion k b =>
      cases k with
      | land => exact off.elim
      | lift => exact off.elim
      | move =>
          obtain ⟨same, off⟩ := off
          rw [react_follow same, arrive, if_neg (by simpa using off)]

theorem react_rests
    (rests : s.Steady fun b => b.pointer = pointer ∧ v.surface.isAtEdge b.position = true ∧
      ¬ v.config.driftTolerance < anchor.distance b.position) :
    react v (.holding pointer anchor timer) s =
      (.holding pointer anchor (timer.advance v.config s.time).1,
        (timer.advance v.config s.time).2) := by
  cases s with
  | tick now => rfl
  | motion k b =>
      cases k with
      | land => exact rests.elim
      | lift => exact rests.elim
      | move =>
          obtain ⟨same, edge, near⟩ := rests
          simp [react, step, follow, Phase.tracked?, same, edge, View.not_strays_iff.2 near]

end React

theorem react_stranger {p : Phase} {k : Touch.Motion} {c : Contact} (other : k ≠ .land)
    (stranger : p.tracked? ≠ some c.pointer) :
    react v p (.motion k c) = (p, .proceed p.engaged) := by
  cases k with
  | land => exact absurd rfl other
  | move => simp [react, step, stranger]
  | lift => simp [react, step, stranger]

/-- Why a drag can be given up. -/
def reasons : List AbandonReason := [.pointerLifted, .drift, .extraPointer, .leftEdge]

/-- All that a stimulus can do to a drag, and the verdict that goes with it. -/
inductive Reaction (v : View) : Phase → Stimulus → Phase × Verdict → Prop
  | rest {s : Stimulus} (none_lands : s.LandsNone) : Reaction v .idle s (.idle, .proceed false)
  | press (c : Contact) :
      Reaction v .idle (.motion .land c) (.pressed c c.position, .proceed false)
  | wait {press : Contact} {last : Point} {s : Stimulus}
      (presses : Presses v.config press s) :
      Reaction v (.pressed press last) s
        (.pressed press ((s.place? press.pointer).getD last), .proceed false)
  | promote {press : Contact} {last place : Point} {s : Stimulus}
      (found : s.Finds press.pointer last place)
      (long : v.config.longPress.millis ≤ s.time - press.time) :
      Reaction v (.pressed press last) s (arrive v press.pointer place s.time, .proceed true)
  | stray {pointer : PointerId} {s : Stimulus} (none_lands : s.LandsNone)
      (down : s.LeavesDown pointer) :
      Reaction v (.dragging pointer) s (.dragging pointer, .proceed true)
  | follow {pointer : PointerId} {b : Contact} (same : b.pointer = pointer) :
      Reaction v (.dragging pointer) (.motion .move b)
        (arrive v pointer b.position b.time, .proceed true)
  | look {pointer : PointerId} {anchor : Point} {timer : HoldTimer} {s : Stimulus}
      (rests : s.Steady fun b => b.pointer = pointer ∧ v.surface.isAtEdge b.position = true ∧
        ¬ v.config.driftTolerance < anchor.distance b.position) :
      Reaction v (.holding pointer anchor timer) s
        (.holding pointer anchor (timer.advance v.config s.time).1,
          (timer.advance v.config s.time).2)
  | pass {pointer : PointerId} {anchor : Point} {timer : HoldTimer} {s : Stimulus}
      (holds : Holds v.surface v.config.driftTolerance pointer anchor s) :
      Reaction v (.holding pointer anchor timer) s (.holding pointer anchor timer, .proceed true)
  | fail {p : Phase} {s : Stimulus} {why : AbandonReason} (listed : why ∈ reasons) :
      Reaction v p s (p, .abandon why)

theorem reaction_of_land (p : Phase) (c : Contact) :
    Reaction v p (.motion .land c) (react v p (.motion .land c)) := by
  cases p with
  | idle => exact .press c
  | pressed press last => exact .fail (by decide)
  | dragging pointer => exact .fail (by decide)
  | holding pointer anchor timer => exact .fail (by decide)

theorem reaction_of_stranger {p : Phase} {k : Touch.Motion} {c : Contact} (other : k ≠ .land)
    (stranger : p.tracked? ≠ some c.pointer) :
    Reaction v p (.motion k c) (react v p (.motion k c)) := by
  have none_lands : (Stimulus.motion k c).LandsNone := Stimulus.landsNone_motion_iff.2 other
  rw [react_stranger other stranger]
  cases p with
  | idle => exact .rest none_lands
  | pressed press last =>
      have apart : c.pointer ≠ press.pointer := by simpa [Phase.tracked?, eq_comm] using stranger
      have elsewhere : (Stimulus.motion k c).place? press.pointer = none := if_neg apart
      have wait : Reaction v (.pressed press last) (.motion k c) _ :=
        .wait ⟨none_lands, Stimulus.spares_of_apart apart, Stimulus.onMove_of_apart apart, trivial⟩
      rwa [elsewhere] at wait
  | dragging pointer =>
      have apart : c.pointer ≠ pointer := by simpa [Phase.tracked?, eq_comm] using stranger
      exact .stray none_lands (Stimulus.leavesDown_of_apart apart)
  | holding pointer anchor timer =>
      have apart : c.pointer ≠ pointer := by simpa [Phase.tracked?, eq_comm] using stranger
      exact .pass ⟨none_lands, Stimulus.leavesDown_of_apart apart,
        Stimulus.onMove_of_apart apart, Stimulus.onMove_of_apart apart⟩

theorem reaction_of_move {p : Phase} {c : Contact} (tracks : p.tracked? = some c.pointer) :
    Reaction v p (.motion .move c) (react v p (.motion .move c)) := by
  have follows : react v p (.motion .move c) = follow v c p := if_pos tracks
  cases p with
  | idle => cases tracks
  | pressed press last =>
      have same : c.pointer = press.pointer := (Option.some.inj tracks).symm
      by_cases long : v.config.longPress.millis ≤ c.time - press.time
      · have found : (Stimulus.motion .move c).Finds press.pointer last c.position := ⟨same, rfl⟩
        rw [react_found found long]
        exact .promote found long
      · by_cases strayed : v.strays (press.drift c) = true
        · simp only [follows, follow, pressedLong, long, strayed, decide_false, Bool.false_eq_true,
            if_false, if_true]
          exact .fail (by decide)
        · rw [Bool.not_eq_true, View.not_strays_iff] at strayed
          rw [react_waits (s := .motion .move c) long ⟨same, strayed⟩]
          exact .wait ⟨trivial, Stimulus.spares_move_iff.2 fun _ => strayed,
            fun _ => Nat.not_le.1 long, trivial⟩
  | dragging pointer =>
      have same : c.pointer = pointer := (Option.some.inj tracks).symm
      rw [react_follow same]
      exact .follow same
  | holding pointer anchor timer =>
      have same : c.pointer = pointer := (Option.some.inj tracks).symm
      simp only [follows, follow]
      split_ifs with off strayed
      · exact .fail (by decide)
      · exact .fail (by decide)
      · rw [Bool.not_eq_true, View.not_strays_iff] at strayed
        exact .look (s := .motion .move c) ⟨same, by simpa using off, strayed⟩

theorem reaction (v : View) (p : Phase) (s : Stimulus) : Reaction v p s (react v p s) := by
  cases s with
  | tick now =>
      cases p with
      | idle => exact .rest trivial
      | pressed press last =>
          by_cases long : v.config.longPress.millis ≤ now - press.time
          · have found : (Stimulus.tick now).Finds press.pointer last last := rfl
            rw [react_found found long]
            exact .promote found long
          · rw [react_waits (s := .tick now) long trivial]
            exact .wait ⟨trivial, Stimulus.spares_tick _ _ _, trivial, Nat.not_le.1 long⟩
      | dragging pointer => exact .stray trivial trivial
      | holding pointer anchor timer => exact .look trivial
  | motion k c =>
      by_cases tracks : p.tracked? = some c.pointer
      · cases k with
        | land => exact reaction_of_land p c
        | move => exact reaction_of_move tracks
        | lift =>
            simp only [react, step, if_pos tracks]
            exact .fail (by decide)
      · by_cases lands : k = .land
        · rw [lands]
          exact reaction_of_land p c
        · exact reaction_of_stranger lands tracks

/-- A look at the clock lets a hold at an edge go on. -/
theorem holds_of_rests {pointer : PointerId} {anchor : Point} {s : Stimulus}
    (rests : s.Steady fun b => b.pointer = pointer ∧ v.surface.isAtEdge b.position = true ∧
      ¬ v.config.driftTolerance < anchor.distance b.position) :
    Holds v.surface v.config.driftTolerance pointer anchor s := by
  obtain ⟨now, rfl⟩ | ⟨b, rfl, _, edge, near⟩ := rests.tick_or_move
  · exact ⟨trivial, trivial, trivial, trivial⟩
  · exact ⟨trivial, trivial, fun _ => edge, fun _ => near⟩

theorem course_of_lasts {p : Phase} {s : Stimulus}
    (lasts : (react v p s).2.lasts = true) : Course v p s (react v p s).1 := by
  have reaction := reaction v p s
  generalize react v p s = o at reaction lasts ⊢
  cases reaction with
  | rest none_lands => exact .rest none_lands
  | press c => exact .press c
  | wait presses => exact .wait presses
  | promote found long => exact .promote found long
  | stray none_lands down => exact .stray none_lands down
  | follow same => exact .follow same
  | look rests => exact .hold (holds_of_rests rests) (HoldTimer.advance_since _ _ _)
  | pass holds => exact .hold holds rfl
  | fail => cases lasts

/-- Only a hold at an edge completes the gesture. -/
theorem holding_of_complete {p : Phase} {s : Stimulus}
    (complete : (react v p s).2 = .complete) :
    ∃ pointer anchor timer, p = .holding pointer anchor timer ∧
      Holds v.surface v.config.driftTolerance pointer anchor s ∧
        v.config.hold.millis ≤ s.time - timer.since := by
  have reaction := reaction v p s
  generalize react v p s = o at reaction complete
  cases reaction with
  | look rests =>
      exact ⟨_, _, _, rfl, holds_of_rests rests, HoldTimer.advance_complete_iff.1 complete⟩
  | rest | press | wait | promote | stray | follow | pass | fail => cases complete

/-- A hold at an edge is completed by a tick or a move. -/
theorem steady_of_complete {p : Phase} {s : Stimulus}
    (complete : (react v p s).2 = .complete) : s.Steady fun _ => True := by
  have reaction := reaction v p s
  generalize react v p s = o at reaction complete
  cases reaction with
  | look rests =>
      obtain ⟨now, rfl⟩ | ⟨b, rfl, _⟩ := rests.tick_or_move
      · trivial
      · trivial
  | rest | press | wait | promote | stray | follow | pass | fail => cases complete

theorem engaged_arrive (pointer : PointerId) (place : Point) (now : Time) :
    (arrive v pointer place now).engaged = true := by
  unfold arrive
  split <;> rfl

theorem engaged_of_consumes {p : Phase} {s : Stimulus}
    (consumes : (react v p s).2.consumes = true) :
    (react v p s).1.engaged = true := by
  have reaction := reaction v p s
  generalize react v p s = o at reaction consumes ⊢
  cases reaction with
  | promote | follow => exact engaged_arrive _ _ _
  | stray | look | pass => rfl
  | rest | press | wait | fail => cases consumes

theorem active_or_edge_of_engaged {p : Phase} (engaged : p.engaged = true) :
    p.stage = .active ∨ p.awaiting = some .edge := by
  cases p with
  | idle => cases engaged
  | pressed press last => cases engaged
  | dragging pointer => exact Or.inr rfl
  | holding pointer anchor timer => exact Or.inl rfl

theorem tracked?_arrive (pointer : PointerId) (place : Point) (now : Time) :
    (arrive v pointer place now).tracked? = some pointer := by
  unfold arrive
  split <;> rfl

theorem mem_tracked_of_course {p p' : Phase} {s : Stimulus} {q : PointerId}
    (course : Course v p s p') (tracked : p'.tracked? = some q) :
    s.Lands q ∨ p.tracked? = some q ∧ s.LeavesDown q := by
  cases course with
  | rest => cases tracked
  | press c => exact Or.inl (Option.some.inj tracked)
  | wait presses =>
      cases tracked
      exact Or.inr ⟨rfl, presses.spared.down⟩
  | promote found =>
      rw [tracked?_arrive] at tracked
      cases tracked
      exact Or.inr ⟨rfl, found.leavesDown⟩
  | stray none_lands down =>
      cases tracked
      exact Or.inr ⟨rfl, down⟩
  | follow same =>
      rw [tracked?_arrive] at tracked
      cases tracked
      exact Or.inr ⟨rfl, trivial⟩
  | hold holds =>
      cases tracked
      exact Or.inr ⟨rfl, holds.down⟩

theorem rank_arrive (v : View) (pointer : PointerId) (position : Point) (now : Time) :
    Stage.pending.rank ≤ (arrive v pointer position now).stage.rank := by
  unfold arrive
  split_ifs
  · exact Nat.le_succ _
  · exact Nat.le_refl _

/-- A drag takes no stage back. -/
theorem rank_react (p : Phase) (s : Stimulus) :
    p.stage.rank ≤ (react v p s).1.stage.rank := by
  have reaction := reaction v p s
  generalize react v p s = o at reaction ⊢
  cases reaction with
  | rest | press => exact Nat.zero_le _
  | promote | follow => exact rank_arrive _ _ _ _
  | wait | stray | look | pass | fail => exact Nat.le_refl _

theorem mem_reasons_of_abandon {p : Phase} {s : Stimulus} {why : AbandonReason}
    (abandoned : (react v p s).2 = .abandon why) : why ∈ reasons := by
  have reaction := reaction v p s
  generalize react v p s = o at reaction abandoned
  cases reaction with
  | fail listed =>
      cases abandoned
      exact listed
  | look => exact absurd abandoned (HoldTimer.advance_ne_abandon _ _ _ _)
  | rest | press | wait | promote | stray | follow | pass => cases abandoned

end EdgeDrag
end ExitGesture
