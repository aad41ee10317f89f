import ExitGesture.Proofs.Renewal

/-!
# A new stream makes a hold new

The end of a stream can get lost.  It leaves behind an attempt, a closed latch, pointers that are
still counted, or all of them, and the first landing of the next stream does away with them.  An
attempt goes because it tracks a pointer.  Only between two taps does an attempt track none, and
those taps count on.
-/

namespace ExitGesture
namespace Tracker

/-- The tracker of a gesture after a first landing. -/
def landed (c : Contact) : Gesture → Tracker
  | .oppositeCornersHold => .pairHold .oppositeCorners (.awaitingSecond c)
  | .twoFingerHeaderHold => .pairHold .header (.awaitingSecond c)
  | .singleFingerEdgeDragHold => .edgeDrag (.pressed c c.position)
  | .tripleTapDebug => .tripleTap (TripleTap.start c)

theorem land_ofGesture (g : Gesture) (v : View) (c : Contact) :
    (ofGesture g).step v .land c = (landed c g, .proceed false) := by
  cases g <;> rfl

theorem stage_landed (c : Contact) (g : Gesture) : (landed c g).stage = .pending := by
  cases g <;> rfl

theorem tracked_landed (c : Contact) (g : Gesture) : (landed c g).tracked = [c.pointer] := by
  cases g <;> rfl

theorem tracked_ne_nil_of_begun {τ : Tracker} (holds : τ.gesture ≠ .tripleTapDebug)
    (begun : τ.stage ≠ .idle) : τ.tracked ≠ [] := by
  cases τ with
  | pairHold region p =>
      intro none_tracked
      exact begun (PairHold.Phase.stage_eq_idle_iff.2
        (PairHold.Phase.tracked_eq_nil_iff.1 none_tracked))
  | edgeDrag p =>
      intro none_tracked
      exact begun (EdgeDrag.Phase.stage_eq_idle_iff.2
        (EdgeDrag.Phase.tracked?_eq_none_iff.1 (Option.toList_eq_nil_iff.1 none_tracked)))
  | tripleTap p => exact absurd rfl holds

end Tracker

namespace Recognizer

variable {r : Recognizer} {h : Host} {t : Touch}

/-- The recognizer that the first landing of a stream finds, if no attempt is left that tracks
nothing. -/
theorem readied_of_down (wf : r.WellFormed) (clears : r.stage = .idle ∨ r.tracked ≠ [])
    (down : t.kind = .down) :
    (r.counted t).readied t =
      { r with
        tracker := .ofGesture r.config.gesture
        onSurface := [t.pointer]
        latched := false
        lastAbandon := if r.stage = .idle then r.lastAbandon else some .streamRestarted } := by
  have cleared : r.tracker.cleared = .ofGesture r.config.gesture :=
    congrArg Tracker.ofGesture wf.gesture
  by_cases idle : r.stage = .idle
  · have tracker : r.tracker = .ofGesture r.config.gesture :=
      (Tracker.stage_eq_idle_iff.1 idle).trans cleared
    have untracked : (r.counted t).tracked = [] := tracked_of_idle (r := r.counted t) idle
    rw [readied, if_neg fun restarts => restarts.2 untracked]
    simp [counted, pointersAfter, down, idle, ← tracker]
  · have tracked : (r.counted t).tracked ≠ [] := clears.resolve_left idle
    have begun : (r.counted t).stage ≠ .idle := idle
    rw [readied, if_pos ⟨down, tracked⟩, state_abandon, if_neg begun, if_neg idle]
    simp [counted, pointersAfter, down, cleared]

/-- At a hold, no attempt is left that tracks nothing. -/
theorem clears_of_holds (wf : r.WellFormed) (holds : r.config.gesture ≠ .tripleTapDebug) :
    r.stage = .idle ∨ r.tracked ≠ [] := by
  by_cases idle : r.stage = .idle
  · exact Or.inl idle
  · exact Or.inr (Tracker.tracked_ne_nil_of_begun (wf.gesture ▸ holds) idle)

/-- The first landing of a stream leaves its own attempt and nothing else. -/
theorem touch_restarts (wf : r.WellFormed) (clears : r.stage = .idle ∨ r.tracked ≠ [])
    (listening : h.exploring = false) (down : t.kind = .down) :
    (r.touch h t).answer = false ∧
      (r.touch h t).state =
        { r with
          tracker := .landed t.contact r.config.gesture
          onSurface := [t.pointer]
          latched := false
          lastAbandon := if r.stage = .idle then r.lastAbandon else some .streamRestarted } := by
  obtain ⟨answer, state, _⟩ := touch_down (r := r) (t := t) listening down
  rw [readied_of_down wf clears down, Tracker.land_ofGesture] at answer state
  exact ⟨answer, state⟩

/-- Whatever a hold was in the middle of, the first landing of a stream that is heard begins the
attempt that it begins for a new recognizer with the same configuration, and whatever follows is
answered and signalled alike.  Only the count of triggers and the reason of the last abandonment
remember what was before. -/
theorem restarted_as_new (c : Config) (history : List Moment) (h : Host) (t : Touch)
    (holds : ((ofConfig c).run history).config.gesture ≠ .tripleTapDebug)
    (listening : h.exploring = false) (down : t.kind = .down) (later : List Moment) (n : Moment) :
    let r := (ofConfig c).run history
    let restarted := r.after ⟨h, .touch t⟩
    let new := ((ofConfig r.config).after ⟨h, .touch t⟩).run later
    (r.serve ⟨h, .touch t⟩).answer = .consumed false ∧
      restarted.stage = .pending ∧ restarted.tracked = [t.pointer] ∧
      restarted.run later =
        { new with
          triggers := restarted.triggers + new.triggers
          lastAbandon := new.lastAbandon.or restarted.lastAbandon } ∧
      ((restarted.run later).serve n).answer = (new.serve n).answer ∧
      ((restarted.run later).serve n).signals = (new.serve n).signals := by
  intro r restarted new
  have wf : r.WellFormed := (WellFormed.ofConfig c).run history
  obtain ⟨answer, state⟩ :=
    touch_restarts (h := h) (t := t) wf (clears_of_holds wf holds) listening down
  have new_idle : (ofConfig r.config).stage = .idle := Tracker.stage_ofGesture _
  have fresh := (touch_restarts (h := h) (t := t) (WellFormed.ofConfig r.config)
    (Or.inl new_idle) listening down).2
  -- the two attempts are one, and the pasts differ in the record alone
  have begun : restarted = restarted.following ((ofConfig r.config).after ⟨h, .touch t⟩) := by
    show (r.touch h t).state = following (r.touch h t).state ((ofConfig r.config).touch h t).state
    rw [fresh, state, if_pos new_idle]
    simp [following, ofConfig, wf.surface]
  have same : restarted.run later = restarted.following new := by
    calc
      restarted.run later =
          (restarted.following ((ofConfig r.config).after ⟨h, .touch t⟩)).run later :=
        congrArg (run · later) begun
      _ = restarted.following new := run_following _ _ later
  refine ⟨congrArg Session.Reply.consumed answer, ?_, ?_, ?_⟩
  · show (r.touch h t).state.tracker.stage = .pending
    rw [state]
    exact Tracker.stage_landed _ _
  · show (r.touch h t).state.tracker.tracked = [t.pointer]
    rw [state]
    exact Tracker.tracked_landed _ _
  · rw [same, serve_following]
    exact ⟨rfl, rfl, rfl⟩

/-- A pair fired and left the latch closed, a third pointer landed, and no end of the stream was
heard.  The pair that lands next fires again. -/
theorem restarted_as_new_corners :
    let host : Host := .phone .oppositeCornersHold
    let history := host.touches
        [⟨.down, 0, ⟨10, 10⟩, 0⟩, ⟨.pointerDown, 1, ⟨1070, 1910⟩, 50⟩] ++
      [⟨host, .tick 2550⟩, ⟨host, .touch ⟨.pointerDown, 2, ⟨500, 500⟩, 2600⟩⟩]
    let start : Touch := ⟨.down, 7, ⟨1070, 1910⟩, 3000⟩
    let later := host.touches [⟨.pointerDown, 8, ⟨10, 10⟩, 3050⟩]
    let r := (ofConfig (.forScreen .oppositeCornersHold 1080 1920)).run history
    let restarted := r.after ⟨host, .touch start⟩
    let new := ((ofConfig r.config).after ⟨host, .touch start⟩).run later
    r.config.gesture ≠ .tripleTapDebug ∧ r.latched = true ∧ r.onSurface.length = 3 ∧
      (restarted.run later).Fires ⟨host, .tick 5550⟩ ∧
      (r.serve ⟨host, .touch start⟩).answer = .consumed false ∧
      restarted.stage = .pending ∧ restarted.tracked = [7] ∧
      restarted.run later =
        { new with
          triggers := restarted.triggers + new.triggers
          lastAbandon := new.lastAbandon.or restarted.lastAbandon } ∧
      ((restarted.run later).serve ⟨host, .tick 5550⟩).answer =
        (new.serve ⟨host, .tick 5550⟩).answer ∧
      ((restarted.run later).serve ⟨host, .tick 5550⟩).signals =
        (new.serve ⟨host, .tick 5550⟩).signals := by
  intro host history start later r restarted new
  have holds : r.config.gesture ≠ .tripleTapDebug := by decide +kernel
  have alike := restarted_as_new (.forScreen .oppositeCornersHold 1080 1920) history host start
    holds rfl rfl later ⟨host, .tick 5550⟩
  exact ⟨holds, by decide +kernel, by decide +kernel, by decide +kernel, alike⟩

/-- Between two taps nothing is tracked, and the first landing of the next stream is the next
tap. -/
example :
    let host : Host := .phone .tripleTapDebug
    let tap := host.touches [⟨.down, 0, ⟨10, 10⟩, 0⟩, ⟨.up, 0, ⟨10, 10⟩, 50⟩]
    let r := (ofConfig (.forScreen .tripleTapDebug 1080 1920)).run tap
    (r.after ⟨host, .touch ⟨.down, 0, ⟨10, 10⟩, 200⟩⟩).awaiting = some (.taps 1) := by
  decide +kernel

end Recognizer
end ExitGesture
