import ExitGesture.Proofs.Tracker.EdgeDrag
import ExitGesture.Proofs.Tracker.PairHold
import ExitGesture.Proofs.Tracker.TripleTap

/-!
# What every tracker keeps to

The three gestures track pointers, complete and give up on their own terms.  What is asked of them
elsewhere holds of each one, and is said here once for any tracker.
-/

namespace ExitGesture
namespace Tracker

variable {v : View}

theorem tripleTap_of_gesture {τ : Tracker} (taps : τ.gesture = .tripleTapDebug) :
    ∃ p, τ = .tripleTap p := by
  cases τ with
  | pairHold region p => cases region <;> cases taps
  | edgeDrag p => cases taps
  | tripleTap p => exact ⟨p, rfl⟩

theorem mem_tracked_react {τ : Tracker} {s : Stimulus} {q : PointerId}
    (lasts : (τ.react v s).2.lasts = true) (tracked : q ∈ (τ.react v s).1.tracked) :
    s.Lands q ∨ q ∈ τ.tracked ∧ s.LeavesDown q := by
  cases τ with
  | pairHold region p =>
      rw [PairHold.tracker_react] at lasts tracked
      exact PairHold.mem_tracked_of_course (PairHold.course_of_lasts lasts) tracked
  | edgeDrag p =>
      rw [EdgeDrag.tracker_react] at lasts tracked
      have followed := EdgeDrag.mem_tracked_of_course (EdgeDrag.course_of_lasts lasts)
        (Option.mem_toList.1 tracked)
      exact followed.imp_right (And.imp_left Option.mem_toList.2)
  | tripleTap p =>
      rw [TripleTap.tracker_react] at lasts tracked
      have followed := TripleTap.mem_tracked_of_course (TripleTap.course_of_lasts lasts)
        (Option.mem_toList.1 tracked)
      exact followed.imp_right (And.imp_left Option.mem_toList.2)

theorem tracked_ne_nil_of_complete {τ : Tracker} {s : Stimulus}
    (complete : (τ.react v s).2 = .complete) : τ.tracked ≠ [] := by
  cases τ with
  | pairHold region p =>
      rw [PairHold.tracker_react] at complete
      obtain ⟨first, second, timer, rfl, _⟩ := PairHold.holding_of_complete complete
      exact List.cons_ne_nil _ _
  | edgeDrag p =>
      rw [EdgeDrag.tracker_react] at complete
      obtain ⟨pointer, anchor, timer, rfl, _⟩ := EdgeDrag.holding_of_complete complete
      exact List.cons_ne_nil _ _
  | tripleTap p =>
      rw [TripleTap.tracker_react] at complete
      obtain ⟨anchor, lastDown, completed, contact, c, rfl, _⟩ :=
        TripleTap.tapping_of_complete complete
      exact List.cons_ne_nil _ _

theorem begun_of_complete {τ : Tracker} {s : Stimulus} (complete : (τ.react v s).2 = .complete) :
    τ.stage ≠ .idle ∧ s.LandsNone := by
  cases τ with
  | pairHold region p =>
      rw [PairHold.tracker_react] at complete
      obtain ⟨first, second, timer, rfl, undisturbed, _⟩ :=
        PairHold.holding_of_complete complete
      exact ⟨Stage.noConfusion, undisturbed.none_lands⟩
  | edgeDrag p =>
      rw [EdgeDrag.tracker_react] at complete
      obtain ⟨pointer, anchor, timer, rfl, holds, _⟩ := EdgeDrag.holding_of_complete complete
      exact ⟨Stage.noConfusion, holds.none_lands⟩
  | tripleTap p =>
      rw [TripleTap.tracker_react] at complete
      obtain ⟨anchor, lastDown, completed, contact, c, rfl, rfl, _⟩ :=
        TripleTap.tapping_of_complete complete
      exact ⟨Stage.noConfusion, trivial⟩

/-- A hold is completed while it is active, by a tick or a move. -/
theorem active_of_complete {τ : Tracker} {s : Stimulus} (holds : τ.gesture ≠ .tripleTapDebug)
    (complete : (τ.react v s).2 = .complete) :
    τ.stage = .active ∧ s.Steady fun _ => True := by
  cases τ with
  | pairHold region p =>
      rw [PairHold.tracker_react] at complete
      have steady := PairHold.steady_of_complete complete
      obtain ⟨first, second, timer, rfl, _⟩ := PairHold.holding_of_complete complete
      exact ⟨rfl, steady⟩
  | edgeDrag p =>
      rw [EdgeDrag.tracker_react] at complete
      have steady := EdgeDrag.steady_of_complete complete
      obtain ⟨pointer, anchor, timer, rfl, _⟩ := EdgeDrag.holding_of_complete complete
      exact ⟨rfl, steady⟩
  | tripleTap p => exact absurd rfl holds

theorem engaged_of_consumes {τ : Tracker} {s : Stimulus}
    (consumes : (τ.react v s).2.consumes = true) :
    (τ.react v s).2 = .complete ∨ (τ.react v s).1.stage = .active ∨
      (τ.react v s).1.awaiting = some .edge := by
  cases τ with
  | pairHold region p =>
      rw [PairHold.tracker_react] at consumes ⊢
      exact Or.inr (Or.inl (PairHold.active_of_consumes consumes))
  | edgeDrag p =>
      rw [EdgeDrag.tracker_react] at consumes ⊢
      exact Or.inr (EdgeDrag.active_or_edge_of_engaged (EdgeDrag.engaged_of_consumes consumes))
  | tripleTap p =>
      rw [TripleTap.tracker_react] at consumes ⊢
      exact Or.inl (TripleTap.complete_of_consumes consumes)

/-- No tracker takes a stage back. -/
theorem rank_react (τ : Tracker) (s : Stimulus) :
    τ.stage.rank ≤ (τ.react v s).1.stage.rank := by
  cases τ with
  | pairHold region p =>
      rw [PairHold.tracker_react]
      exact PairHold.rank_react p s
  | edgeDrag p =>
      rw [EdgeDrag.tracker_react]
      exact EdgeDrag.rank_react p s
  | tripleTap p =>
      rw [TripleTap.tracker_react]
      exact TripleTap.rank_react p s

theorem begun_react {τ : Tracker} (s : Stimulus) (begun : τ.stage ≠ .idle) :
    (τ.react v s).1.stage ≠ .idle :=
  Stage.rank_pos_iff.1 (Nat.lt_of_lt_of_le (Stage.rank_pos_iff.2 begun) (rank_react τ s))

/-- Why a tracker can give its attempt up. -/
def reasons : Tracker → List AbandonReason
  | .pairHold _ _ => PairHold.reasons
  | .edgeDrag _ => EdgeDrag.reasons
  | .tripleTap _ => TripleTap.reasons

theorem mem_reasons_of_abandon {τ : Tracker} {s : Stimulus} {why : AbandonReason}
    (abandoned : (τ.react v s).2 = .abandon why) : why ∈ τ.reasons := by
  cases τ with
  | pairHold region p =>
      rw [PairHold.tracker_react] at abandoned
      exact PairHold.mem_reasons_of_abandon abandoned
  | edgeDrag p =>
      rw [EdgeDrag.tracker_react] at abandoned
      exact EdgeDrag.mem_reasons_of_abandon abandoned
  | tripleTap p =>
      rw [TripleTap.tracker_react] at abandoned
      exact TripleTap.mem_reasons_of_abandon abandoned

/-- No tracker gives its attempt up for a new stream. -/
theorem streamRestarted_not_mem_reasons (τ : Tracker) : .streamRestarted ∉ τ.reasons := by
  cases τ with
  | pairHold region p => simp [reasons, PairHold.reasons]
  | edgeDrag p => simp [reasons, EdgeDrag.reasons]
  | tripleTap p => simp [reasons, TripleTap.reasons]

end Tracker
end ExitGesture
