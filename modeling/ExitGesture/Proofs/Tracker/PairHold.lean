import ExitGesture.Proofs.Stimulus
import Mathlib.Tactic.SplitIfs

/-!
# The course of a pair of pointers

What one stimulus does to the attempt of a two-finger gesture.  All that is said of it here comes
from one list of what can happen, `Reaction`.
-/

namespace ExitGesture
namespace PairHold

variable {region : Region} {v : View}

def react (region : Region) (v : View) (p : Phase) : Stimulus → Phase × Verdict
  | .motion k c => step region v p k c
  | .tick now => tick v now p

theorem tracker_react (p : Phase) (s : Stimulus) :
    (Tracker.pairHold region p).react v s =
      ((react region v p s).map (.pairHold region) id) := by
  cases s <;> rfl

theorem tracker_react_eq {p p' : Phase} {s : Stimulus} {w : Verdict}
    (reacts : react region v p s = (p', w)) :
    (Tracker.pairHold region p).react v s = (.pairHold region p', w) := by
  rw [tracker_react, reacts]
  rfl

/-- A stimulus leaves a pair alone.  Of two anchors with one pointer only the first is looked at. -/
structure Undisturbed (tolerance : Float32) (first second : Contact) (s : Stimulus) : Prop where
  none_lands : s.LandsNone
  first_spared : s.Spares tolerance first
  second_spared : first.pointer ≠ second.pointer → s.Spares tolerance second

/-- The ways of an attempt that lasts. -/
inductive Course (region : Region) (v : View) : Phase → Stimulus → Phase → Prop
  | rest {s : Stimulus} (none_lands : s.LandsNone) : Course region v .idle s .idle
  | first (c : Contact) : Course region v .idle (.motion .land c) (.awaitingSecond c)
  | again (first c : Contact) :
      Course region v (.awaitingSecond first) (.motion .land c) (.awaitingSecond c)
  | pair {first c : Contact} (other : c.pointer ≠ first.pointer)
      (soon : c.time - first.time ≤ v.config.pairTimeout.millis)
      (accepted : region.accepts v first.position c.position = true) :
      Course region v (.awaitingSecond first) (.motion .land c)
        (.holding first c (.start c.time))
  | wait {first : Contact} {s : Stimulus} (none_lands : s.LandsNone)
      (spared : s.Spares v.config.driftTolerance first) :
      Course region v (.awaitingSecond first) s (.awaitingSecond first)
  | hold {first second : Contact} {timer timer' : HoldTimer} {s : Stimulus}
      (undisturbed : Undisturbed v.config.driftTolerance first second s)
      (since : timer'.since = timer.since) :
      Course region v (.holding first second timer) s (.holding first second timer')

theorem undisturbed_of_no_stray {first second c : Contact}
    (near : ([first, second].find? (·.pointer = c.pointer)).any
      (fun anchor => v.strays (anchor.drift c)) = false) :
    Undisturbed v.config.driftTolerance first second (.motion .move c) := by
  by_cases at_first : first.pointer = c.pointer
  · have near_first : v.strays (first.drift c) = false := by
      simpa [at_first] using near
    refine ⟨trivial, Stimulus.spares_move_iff.2 fun _ => View.not_strays_iff.1 near_first, ?_⟩
    intro distinct
    refine Stimulus.spares_move_iff.2 fun at_second => ?_
    exact absurd (at_first.trans at_second) distinct
  · refine ⟨trivial, Stimulus.spares_move_iff.2 fun same => absurd same.symm at_first, ?_⟩
    intro distinct
    refine Stimulus.spares_move_iff.2 fun same => ?_
    have near_second : v.strays (second.drift c) = false := by
      simpa [same, distinct] using near
    exact View.not_strays_iff.1 near_second

/-- A second pointer that is in time and in place makes a pair. -/
theorem react_joined {first second : Contact} (other : second.pointer ≠ first.pointer)
    (soon : second.time - first.time ≤ v.config.pairTimeout.millis)
    (accepted : region.accepts v first.position second.position = true) :
    react region v (.awaitingSecond first) (.motion .land second) =
      (.holding first second (.start second.time), .proceed true) := by
  have stays : ¬ (second.pointer = first.pointer ∨ expired v first second.time = true) := by
    simp [expired, other, soon]
  simp [react, step, land, stays, accepted]

/-- A move that strays from no anchor is a look at the clock. -/
theorem react_near {first second c : Contact} {timer : HoldTimer}
    (near : ([first, second].find? (·.pointer = c.pointer)).any
      (fun anchor => v.strays (anchor.drift c)) = false) :
    react region v (.holding first second timer) (.motion .move c) =
      (.holding first second (timer.advance v.config c.time).1,
        (timer.advance v.config c.time).2) := by
  simp only [react, step, move, near, Bool.false_eq_true, if_false]

/-- Why an attempt at a pair can be given up. -/
def reasons : List AbandonReason :=
  [.pointerLifted, .drift, .extraPointer, .invalidPairing, .pairingTimeout]

/-- All that a stimulus can do to an attempt, and the verdict that goes with it. -/
inductive Reaction (region : Region) (v : View) : Phase → Stimulus → Phase × Verdict → Prop
  | rest {s : Stimulus} (none_lands : s.LandsNone) :
      Reaction region v .idle s (.idle, .proceed false)
  | first (c : Contact) :
      Reaction region v .idle (.motion .land c) (.awaitingSecond c, .proceed false)
  | again (first c : Contact) :
      Reaction region v (.awaitingSecond first) (.motion .land c)
        (.awaitingSecond c, .restart (c.time - first.time))
  | pair {first c : Contact} (other : c.pointer ≠ first.pointer)
      (soon : c.time - first.time ≤ v.config.pairTimeout.millis)
      (accepted : region.accepts v first.position c.position = true) :
      Reaction region v (.awaitingSecond first) (.motion .land c)
        (.holding first c (.start c.time), .proceed true)
  | wait {first : Contact} {s : Stimulus} (none_lands : s.LandsNone)
      (spared : s.Spares v.config.driftTolerance first) :
      Reaction region v (.awaitingSecond first) s (.awaitingSecond first, .proceed false)
  | look {first second : Contact} {timer : HoldTimer} {s : Stimulus}
      (steady : s.Steady fun _ => True)
      (undisturbed : Undisturbed v.config.driftTolerance first second s) :
      Reaction region v (.holding first second timer) s
        (.holding first second (timer.advance v.config s.time).1,
          (timer.advance v.config s.time).2)
  | pass {first second c : Contact} {timer : HoldTimer}
      (undisturbed : Undisturbed v.config.driftTolerance first second (.motion .lift c)) :
      Reaction region v (.holding first second timer) (.motion .lift c)
        (.holding first second timer, .proceed true)
  | fail {p : Phase} {s : Stimulus} {why : AbandonReason} (listed : why ∈ reasons) :
      Reaction region v p s (p, .abandon why)

theorem reaction_of_first (first : Contact) (s : Stimulus) :
    Reaction region v (.awaitingSecond first) s (react region v (.awaitingSecond first) s) := by
  cases s with
  | tick now =>
      simp only [react, tick]
      split_ifs
      · exact .fail (by decide)
      · exact .wait trivial (Stimulus.spares_tick _ _ _)
  | motion k c =>
      cases k with
      | land =>
          simp only [react, step, land]
          split_ifs with replaces accepted
          · exact .again first c
          · simp only [not_or, expired, decide_eq_true_eq, Nat.not_lt] at replaces
            exact .pair replaces.1 replaces.2 accepted
          · exact .fail (by decide)
      | move =>
          simp only [react, step, move]
          split_ifs with other late strayed
          · exact .wait trivial (Stimulus.spares_move_iff.2 fun same => absurd same other)
          · exact .fail (by decide)
          · exact .fail (by decide)
          · rw [Bool.not_eq_true] at strayed
            exact .wait trivial (Stimulus.spares_move_iff.2 fun _ => View.not_strays_iff.1 strayed)
      | lift =>
          simp only [react, step, lift]
          split_ifs with same
          · exact .fail (by decide)
          · exact .wait trivial (Stimulus.spares_lift_iff.2 same)

theorem reaction_of_pair (first second : Contact) (timer : HoldTimer) (s : Stimulus) :
    Reaction region v (.holding first second timer) s
      (react region v (.holding first second timer) s) := by
  cases s with
  | tick now =>
      exact .look trivial
        ⟨trivial, Stimulus.spares_tick _ _ _, fun _ => Stimulus.spares_tick _ _ _⟩
  | motion k c =>
      cases k with
      | land => exact .fail (by decide)
      | move =>
          cases near : ([first, second].find? (·.pointer = c.pointer)).any
              (fun anchor => v.strays (anchor.drift c)) with
          | false =>
              rw [react_near near]
              exact .look (s := .motion .move c) trivial (undisturbed_of_no_stray near)
          | true =>
              simp only [react, step, move, near, if_true]
              exact .fail (by decide)
      | lift =>
          simp only [react, step, lift]
          split_ifs with touched
          · exact .fail (by decide)
          · rw [not_or] at touched
            exact .pass ⟨trivial, Stimulus.spares_lift_iff.2 touched.1,
              fun _ => Stimulus.spares_lift_iff.2 touched.2⟩

theorem reaction (region : Region) (v : View) (p : Phase) (s : Stimulus) :
    Reaction region v p s (react region v p s) := by
  cases p with
  | idle =>
      cases s with
      | tick now => exact .rest trivial
      | motion k c =>
          cases k with
          | land => exact .first c
          | move => exact .rest trivial
          | lift => exact .rest trivial
  | awaitingSecond first => exact reaction_of_first first s
  | holding first second timer => exact reaction_of_pair first second timer s

theorem course_of_lasts {p : Phase} {s : Stimulus}
    (lasts : (react region v p s).2.lasts = true) :
    Course region v p s (react region v p s).1 := by
  have reaction := reaction region v p s
  generalize react region v p s = o at reaction lasts ⊢
  cases reaction with
  | rest none_lands => exact .rest none_lands
  | first c => exact .first c
  | again first c => exact .again first c
  | pair other soon accepted => exact .pair other soon accepted
  | wait none_lands spared => exact .wait none_lands spared
  | look _ undisturbed => exact .hold undisturbed (HoldTimer.advance_since _ _ _)
  | pass undisturbed => exact .hold undisturbed rfl
  | fail => cases lasts

/-- Only a hold completes the gesture. -/
theorem holding_of_complete {p : Phase} {s : Stimulus}
    (complete : (react region v p s).2 = .complete) :
    ∃ first second timer, p = .holding first second timer ∧
      Undisturbed v.config.driftTolerance first second s ∧
      v.config.hold.millis ≤ s.time - timer.since := by
  have reaction := reaction region v p s
  generalize react region v p s = o at reaction complete
  cases reaction with
  | look _ undisturbed =>
      exact ⟨_, _, _, rfl, undisturbed, HoldTimer.advance_complete_iff.1 complete⟩
  | rest | first | again | pair | wait | pass | fail => cases complete

/-- A hold is completed by a tick or a move. -/
theorem steady_of_complete {p : Phase} {s : Stimulus}
    (complete : (react region v p s).2 = .complete) : s.Steady fun _ => True := by
  have reaction := reaction region v p s
  generalize react region v p s = o at reaction complete
  cases reaction with
  | look steady => exact steady
  | rest | first | again | pair | wait | pass | fail => cases complete

/-- Only a pair that is held asks the host not to react. -/
theorem active_of_consumes {p : Phase} {s : Stimulus}
    (consumes : (react region v p s).2.consumes = true) :
    (react region v p s).1.stage = .active := by
  have reaction := reaction region v p s
  generalize react region v p s = o at reaction consumes ⊢
  cases reaction with
  | pair | look | pass => rfl
  | rest | first | again | wait | fail => cases consumes

theorem mem_tracked_of_course {p p' : Phase} {s : Stimulus} {q : PointerId}
    (course : Course region v p s p') (tracked : q ∈ p'.tracked) :
    s.Lands q ∨ q ∈ p.tracked ∧ s.LeavesDown q := by
  cases course with
  | rest => cases tracked
  | first c => exact Or.inl (List.mem_singleton.1 tracked).symm
  | again first c => exact Or.inl (List.mem_singleton.1 tracked).symm
  | pair =>
      rcases List.mem_cons.1 tracked with rfl | tracked
      · exact Or.inr ⟨List.mem_singleton_self _, trivial⟩
      · exact Or.inl (List.mem_singleton.1 tracked).symm
  | wait none_lands spared =>
      cases List.mem_singleton.1 tracked
      exact Or.inr ⟨List.mem_singleton_self _, spared.down⟩
  | @hold first second timer timer' s undisturbed =>
      refine Or.inr ⟨tracked, ?_⟩
      by_cases at_first : q = first.pointer
      · rw [at_first]
        exact undisturbed.first_spared.down
      · have at_second : q = second.pointer := by
          simpa [Phase.tracked, at_first] using tracked
        rw [at_second] at at_first ⊢
        exact (undisturbed.second_spared (Ne.symm at_first)).down

/-- An attempt takes no stage back. -/
theorem rank_react (p : Phase) (s : Stimulus) :
    p.stage.rank ≤ (react region v p s).1.stage.rank := by
  have reaction := reaction region v p s
  generalize react region v p s = o at reaction ⊢
  cases reaction with
  | rest | first => exact Nat.zero_le _
  | again => exact Nat.le_refl _
  | pair => exact Nat.le_succ _
  | wait | look | pass | fail => exact Nat.le_refl _

theorem mem_reasons_of_abandon {p : Phase} {s : Stimulus} {why : AbandonReason}
    (abandoned : (react region v p s).2 = .abandon why) : why ∈ reasons := by
  have reaction := reaction region v p s
  generalize react region v p s = o at reaction abandoned
  cases reaction with
  | fail listed =>
      cases abandoned
      exact listed
  | look => exact absurd abandoned (HoldTimer.advance_ne_abandon _ _ _ _)
  | rest | first | again | pair | wait | pass => cases abandoned

end PairHold
end ExitGesture
