import ExitGesture.Proofs.Stimulus
import Mathlib.Tactic.SplitIfs

/-!
# The course of three taps

What one stimulus does to a series of taps.  All that is said of it here comes from one list of what
can happen, `Reaction`.
-/

namespace ExitGesture
namespace TripleTap

variable {v : View}

def react (v : View) (p : Phase) : Stimulus → Phase × Verdict
  | .motion k c => step v p k c
  | .tick now => tick v now p

theorem tracker_react (p : Phase) (s : Stimulus) :
    (Tracker.tripleTap p).react v s = (react v p s).map .tripleTap id := by
  cases s <;> rfl

theorem tracker_react_eq {p p' : Phase} {s : Stimulus} {w : Verdict}
    (reacts : react v p s = (p', w)) : (Tracker.tripleTap p).react v s = (.tripleTap p', w) := by
  rw [tracker_react, reacts]
  rfl

/-- A stimulus lets a series of taps go on: no pointer lands, and no tick finds the last landing too
long ago. -/
structure Waits (c : Config) (lastDown : Time) (s : Stimulus) : Prop where
  none_lands : s.LandsNone
  tick_soon : s.OnTick fun now => now - lastDown ≤ c.tapTimeout.millis

/-- The ways of an attempt that lasts. -/
inductive Course (v : View) : Phase → Stimulus → Phase → Prop
  | rest {s : Stimulus} (none_lands : s.LandsNone) : Course v .idle s .idle
  | first (c : Contact) : Course v .idle (.motion .land c) (start c)
  | again {anchor : Point} {lastDown : Time} {completed : Nat} (c : Contact) :
      Course v (.tapping anchor lastDown completed none) (.motion .land c) (start c)
  | next {anchor : Point} {lastDown : Time} {completed : Nat} {c : Contact}
      (soon : c.time - lastDown ≤ v.config.tapTimeout.millis)
      (near : ¬ v.config.driftTolerance < anchor.distance c.position) :
      Course v (.tapping anchor lastDown completed none) (.motion .land c)
        (.tapping anchor c.time completed (some c))
  | pause {anchor : Point} {lastDown : Time} {completed : Nat} {s : Stimulus}
      (waits : Waits v.config lastDown s) :
      Course v (.tapping anchor lastDown completed none) s
        (.tapping anchor lastDown completed none)
  | press {anchor : Point} {lastDown : Time} {completed : Nat} {contact : Contact}
      {s : Stimulus} (waits : Waits v.config lastDown s)
      (spared : s.Spares v.config.driftTolerance contact) :
      Course v (.tapping anchor lastDown completed (some contact)) s
        (.tapping anchor lastDown completed (some contact))
  | lift {anchor : Point} {lastDown : Time} {completed : Nat} {contact c : Contact}
      (same : c.pointer = contact.pointer)
      (short : c.time - contact.time ≤ v.config.tapTimeout.millis)
      (more : completed + 1 < required) :
      Course v (.tapping anchor lastDown completed (some contact)) (.motion .lift c)
        (.tapping anchor lastDown (completed + 1) none)

theorem not_overdue_iff {since now : Time} :
    overdue v since now = false ↔ now - since ≤ v.config.tapTimeout.millis := by
  simp [overdue]

/-- Why a series of taps can be given up. -/
def reasons : List AbandonReason := [.drift, .extraPointer, .tapTimeout]

/-- All that a stimulus can do to a series of taps, and the verdict that goes with it. -/
inductive Reaction (v : View) : Phase → Stimulus → Phase × Verdict → Prop
  | rest {s : Stimulus} (none_lands : s.LandsNone) : Reaction v .idle s (.idle, .proceed false)
  | first (c : Contact) : Reaction v .idle (.motion .land c) (start c, .proceed false)
  | again {anchor : Point} {lastDown : Time} {completed : Nat} (c : Contact) :
      Reaction v (.tapping anchor lastDown completed none) (.motion .land c)
        (start c, .proceed false)
  | next {anchor : Point} {lastDown : Time} {completed : Nat} {c : Contact}
      (soon : c.time - lastDown ≤ v.config.tapTimeout.millis)
      (near : ¬ v.config.driftTolerance < anchor.distance c.position) :
      Reaction v (.tapping anchor lastDown completed none) (.motion .land c)
        (.tapping anchor c.time completed (some c), .proceed false)
  | pause {anchor : Point} {lastDown : Time} {completed : Nat} {s : Stimulus}
      (waits : Waits v.config lastDown s) :
      Reaction v (.tapping anchor lastDown completed none) s
        (.tapping anchor lastDown completed none, .proceed false)
  | press {anchor : Point} {lastDown : Time} {completed : Nat} {contact : Contact}
      {s : Stimulus} (waits : Waits v.config lastDown s)
      (spared : s.Spares v.config.driftTolerance contact) :
      Reaction v (.tapping anchor lastDown completed (some contact)) s
        (.tapping anchor lastDown completed (some contact), .proceed false)
  | lift {anchor : Point} {lastDown : Time} {completed : Nat} {contact c : Contact}
      (same : c.pointer = contact.pointer)
      (short : c.time - contact.time ≤ v.config.tapTimeout.millis)
      (more : completed + 1 < required) :
      Reaction v (.tapping anchor lastDown completed (some contact)) (.motion .lift c)
        (.tapping anchor lastDown (completed + 1) none, .proceed false)
  | last {anchor : Point} {lastDown : Time} {completed : Nat} {contact c : Contact}
      (same : c.pointer = contact.pointer)
      (short : c.time - contact.time ≤ v.config.tapTimeout.millis)
      (enough : required ≤ completed + 1) :
      Reaction v (.tapping anchor lastDown completed (some contact)) (.motion .lift c)
        (.tapping anchor lastDown completed (some contact), .complete)
  | fail {p : Phase} {s : Stimulus} {why : AbandonReason} (listed : why ∈ reasons) :
      Reaction v p s (p, .abandon why)

theorem reaction_of_tick (anchor : Point) (lastDown : Time) (completed : Nat)
    (pressed : Option Contact) (now : Time) :
    Reaction v (.tapping anchor lastDown completed pressed) (.tick now)
      (react v (.tapping anchor lastDown completed pressed) (.tick now)) := by
  simp only [react, tick]
  split_ifs with late
  · exact .fail (by decide)
  · rw [Bool.not_eq_true] at late
    have waits : Waits v.config lastDown (.tick now) := ⟨trivial, not_overdue_iff.1 late⟩
    cases pressed with
    | none => exact .pause waits
    | some contact => exact .press waits (Stimulus.spares_tick _ _ _)

/-- Between two taps a landing goes on with the series or begins another one. -/
theorem reaction_between (anchor : Point) (lastDown : Time) (completed : Nat)
    (k : Touch.Motion) (c : Contact) :
    Reaction v (.tapping anchor lastDown completed none) (.motion k c)
      (react v (.tapping anchor lastDown completed none) (.motion k c)) := by
  cases k with
  | move => exact .pause ⟨trivial, trivial⟩
  | lift => exact .pause ⟨trivial, trivial⟩
  | land =>
      simp only [react, step, land]
      split_ifs with restarts
      · exact .again c
      · simp only [Bool.or_eq_true, not_or, Bool.not_eq_true] at restarts
        exact .next (not_overdue_iff.1 restarts.1) (View.not_strays_iff.1 restarts.2)

theorem reaction_of_press (anchor : Point) (lastDown : Time) (completed : Nat)
    (contact : Contact) (k : Touch.Motion) (c : Contact) :
    Reaction v (.tapping anchor lastDown completed (some contact)) (.motion k c)
      (react v (.tapping anchor lastDown completed (some contact)) (.motion k c)) := by
  cases k with
  | land => exact .fail (by decide)
  | move =>
      simp only [react, step, move]
      split_ifs with same strayed
      · exact .fail (by decide)
      · rw [Bool.not_eq_true] at strayed
        exact .press ⟨trivial, trivial⟩
          (Stimulus.spares_move_iff.2 fun _ => View.not_strays_iff.1 strayed)
      · exact .press ⟨trivial, trivial⟩
          (Stimulus.spares_move_iff.2 fun at_press => absurd at_press.symm same)
  | lift =>
      simp only [react, step]
      split_ifs with other long enough
      · exact .press ⟨trivial, trivial⟩ (Stimulus.spares_lift_iff.2 (Ne.symm other))
      · exact .fail (by decide)
      · rw [Bool.not_eq_true] at long
        exact .last (Decidable.not_not.1 other).symm (not_overdue_iff.1 long) enough
      · rw [Bool.not_eq_true] at long
        exact .lift (Decidable.not_not.1 other).symm (not_overdue_iff.1 long) (Nat.not_le.1 enough)

theorem reaction (v : View) (p : Phase) (s : Stimulus) : Reaction v p s (react v p s) := by
  cases p with
  | idle =>
      cases s with
      | tick now => exact .rest trivial
      | motion k c =>
          cases k with
          | land => exact .first c
          | move => exact .rest trivial
          | lift => exact .rest trivial
  | tapping anchor lastDown completed pressed =>
      cases s with
      | tick now => exact reaction_of_tick _ _ _ _ _
      | motion k c =>
          cases pressed with
          | none => exact reaction_between _ _ _ _ _
          | some contact => exact reaction_of_press _ _ _ _ _ _

theorem course_of_lasts {p : Phase} {s : Stimulus}
    (lasts : (react v p s).2.lasts = true) : Course v p s (react v p s).1 := by
  have reaction := reaction v p s
  generalize react v p s = o at reaction lasts ⊢
  cases reaction with
  | rest none_lands => exact .rest none_lands
  | first c => exact .first c
  | again c => exact .again c
  | next soon near => exact .next soon near
  | pause waits => exact .pause waits
  | press waits spared => exact .press waits spared
  | lift same short more => exact .lift same short more
  | last | fail => cases lasts

/-- Only the lift of a short last tap completes the gesture. -/
theorem tapping_of_complete {p : Phase} {s : Stimulus}
    (complete : (react v p s).2 = .complete) :
    ∃ anchor lastDown completed contact c,
      p = .tapping anchor lastDown completed (some contact) ∧ s = .motion .lift c ∧
        c.pointer = contact.pointer ∧ c.time - contact.time ≤ v.config.tapTimeout.millis ∧
        required ≤ completed + 1 := by
  have reaction := reaction v p s
  generalize react v p s = o at reaction complete
  cases reaction with
  | last same short enough => exact ⟨_, _, _, _, _, rfl, rfl, same, short, enough⟩
  | rest | first | again | next | pause | press | lift | fail => cases complete

/-- Only the last tap asks the host not to react. -/
theorem complete_of_consumes {p : Phase} {s : Stimulus}
    (consumes : (react v p s).2.consumes = true) : (react v p s).2 = .complete := by
  have reaction := reaction v p s
  generalize react v p s = o at reaction consumes ⊢
  cases reaction with
  | last => rfl
  | rest | first | again | next | pause | press | lift | fail => cases consumes

theorem mem_tracked_of_course {p p' : Phase} {s : Stimulus} {q : PointerId}
    (course : Course v p s p') (tracked : p'.tracked? = some q) :
    s.Lands q ∨ p.tracked? = some q ∧ s.LeavesDown q := by
  cases course with
  | rest => cases tracked
  | first c => exact Or.inl (Option.some.inj tracked)
  | again c => exact Or.inl (Option.some.inj tracked)
  | next => exact Or.inl (Option.some.inj tracked)
  | pause => cases tracked
  | press waits spared =>
      cases tracked
      exact Or.inr ⟨rfl, spared.down⟩
  | lift => cases tracked

/-- A series of taps takes no stage back. -/
theorem rank_react (p : Phase) (s : Stimulus) :
    p.stage.rank ≤ (react v p s).1.stage.rank := by
  have reaction := reaction v p s
  generalize react v p s = o at reaction ⊢
  cases reaction with
  | rest | first => exact Nat.zero_le _
  | again | next | pause | press | lift | last | fail => exact Nat.le_refl _

theorem mem_reasons_of_abandon {p : Phase} {s : Stimulus} {why : AbandonReason}
    (abandoned : (react v p s).2 = .abandon why) : why ∈ reasons := by
  have reaction := reaction v p s
  generalize react v p s = o at reaction abandoned
  cases reaction with
  | fail listed =>
      cases abandoned
      exact listed
  | rest | first | again | next | pause | press | lift | last => cases abandoned

end TripleTap
end ExitGesture
