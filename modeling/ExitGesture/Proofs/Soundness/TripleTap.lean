import ExitGesture.Proofs.History

/-!
# Three taps that fire belong together

The tracker of the taps keeps the place of the first one, the time of the last one and a count.  The
history behind them is a row of taps with pauses between them, in which nothing else landed.
-/

namespace ExitGesture
namespace TripleTap

/-- A tap: `press` lands at `d`, stays in place for `gap`, and lifts at `u` in time. -/
structure Tap (c : Config) (press : Contact) (d : Moment) (gap : List Moment) (u : Moment) :
    Prop where
  lands : d.Lands press
  in_place : ∀ n ∈ gap,
    n.Keeps fun s => Waits c press.time s ∧ s.Spares c.driftTolerance press
  lifts : ∃ b, u.stimulus? = some (.motion .lift b) ∧ b.pointer = press.pointer ∧
    b.time - press.time ≤ c.tapTimeout.millis

/-- A row of taps, counted, from the tap of `first` to the tap of another contact. -/
inductive Taps (c : Config) (first : Contact) : Nat → Contact → List Moment → Prop
  | one {d u : Moment} {gap : List Moment} (tap : Tap c first d gap u) :
      Taps c first 1 first (d :: (gap ++ [u]))
  | more {n : Nat} {last next : Contact} {row pause gap : List Moment} {d u : Moment}
      (taps : Taps c first n last row) (pauses : ∀ k ∈ pause, k.Keeps (Waits c last.time))
      (soon : next.time - last.time ≤ c.tapTimeout.millis)
      (near : ¬ c.driftTolerance < first.drift next) (tap : Tap c next d gap u) :
      Taps c first (n + 1) next (row ++ (pause ++ d :: (gap ++ [u])))

/-- A history ends in a row of taps and a pause. -/
def Rested (c : Config) (first : Contact) (n : Nat) (last : Contact)
    (history : List Moment) : Prop :=
  ∃ before row pause, history = before ++ (row ++ pause) ∧ Taps c first n last row ∧
    ∀ k ∈ pause, k.Keeps (Waits c last.time)

/-- A tap begins after `n` others of its row. -/
inductive Opens (c : Config) (first : Contact) :
    Nat → Contact → List Moment → Moment → Prop
  | row {before : List Moment} {d : Moment} (lands : d.Lands first) :
      Opens c first 0 first before d
  | next {n : Nat} {last next : Contact} {before : List Moment} {d : Moment}
      (rested : Rested c first n last before) (lands : d.Lands next)
      (soon : next.time - last.time ≤ c.tapTimeout.millis)
      (near : ¬ c.driftTolerance < first.drift next) :
      Opens c first n next before d

/-- A tap has been in progress since it began. -/
def Pressing (c : Config) (first : Contact) (n : Nat) (press : Contact)
    (history : List Moment) : Prop :=
  Since (Opens c first n press)
    (Moment.Keeps fun s => Waits c press.time s ∧ s.Spares c.driftTolerance press) history

/-- The history behind a phase. -/
def Behind (c : Config) (history : List Moment) : Phase → Prop
  | .idle => True
  | .tapping anchor lastDown completed none =>
      completed < required ∧ ∃ first last, first.position = anchor ∧ last.time = lastDown ∧
        Rested c first completed last history
  | .tapping anchor lastDown completed (some press) =>
      completed < required ∧ press.time = lastDown ∧
        ∃ first, first.position = anchor ∧ Pressing c first completed press history

variable {c : Config} {history : List Moment} {m : Moment} {s : Stimulus}

/-- The lift of a tap in progress adds it to the row. -/
theorem Pressing.lifted {first press b : Contact} {n : Nat}
    (pressing : Pressing c first n press history) (heard : m.stimulus? = some (.motion .lift b))
    (same : b.pointer = press.pointer) (short : b.time - press.time ≤ c.tapTimeout.millis) :
    ∃ before row, history ++ [m] = before ++ row ∧ Taps c first (n + 1) press row := by
  obtain ⟨before, d, gap, rfl, opens, in_place⟩ := pressing
  cases opens with
  | row lands =>
      have tap : Tap c first d gap m := ⟨lands, in_place, b, heard, same, short⟩
      exact ⟨before, d :: (gap ++ [m]), by simp, .one tap⟩
  | @next _ last _ _ _ rested lands soon near =>
      obtain ⟨front, row, pause, rfl, taps, pauses⟩ := rested
      have tap : Tap c press d gap m := ⟨lands, in_place, b, heard, same, short⟩
      exact ⟨front, row ++ (pause ++ d :: (gap ++ [m])), by simp,
        .more taps pauses soon near tap⟩

theorem Rested.concat {first last : Contact} {n : Nat} (rested : Rested c first n last history)
    (waits : m.Keeps (Waits c last.time)) : Rested c first n last (history ++ [m]) := by
  obtain ⟨before, row, pause, rfl, taps, pauses⟩ := rested
  refine ⟨before, row, pause ++ [m], by simp, taps, ?_⟩
  exact List.forall_mem_append.2 ⟨pauses, List.forall_mem_singleton.2 waits⟩

theorem behind_start {contact : Contact} (heard : m.Lands contact) :
    Behind c (history ++ [m]) (start contact) :=
  ⟨by decide, rfl, contact, rfl, since_of_now (.row heard)⟩

theorem behind_concat {p p' : Phase} (told : Behind c history p) (heard : m.stimulus? = some s)
    (course : Course (m.host.view c) p s p') : Behind c (history ++ [m]) p' := by
  cases course with
  | rest => trivial
  | first contact => exact behind_start heard
  | again contact => exact behind_start heard
  | next soon near =>
      obtain ⟨few, first, last, rfl, rfl, rested⟩ := told
      exact ⟨few, rfl, first, rfl, since_of_now (.next rested heard soon near)⟩
  | pause waits =>
      obtain ⟨few, first, last, at_anchor, rfl, rested⟩ := told
      have kept := Moment.keeps_of_heard heard waits.none_lands waits
      exact ⟨few, first, last, at_anchor, rfl, rested.concat kept⟩
  | press waits spared =>
      obtain ⟨few, rfl, first, at_anchor, pressing⟩ := told
      refine ⟨few, rfl, first, at_anchor, pressing.concat ?_⟩
      exact Moment.keeps_of_heard heard waits.none_lands ⟨waits, spared⟩
  | lift same short more =>
      obtain ⟨_, rfl, first, at_anchor, pressing⟩ := told
      obtain ⟨before, row, split, taps⟩ := pressing.lifted heard same short
      refine ⟨more, first, _, at_anchor, rfl, before, row, [], by simpa using split, taps, ?_⟩
      intro k mem
      cases mem

theorem behind_unheard {p : Phase} (told : Behind c history p) (silent : m.stimulus? = none)
    (goes_on : ¬ m.Interrupts) : Behind c (history ++ [m]) p := by
  cases p with
  | idle => trivial
  | tapping anchor lastDown completed pressed =>
      cases pressed with
      | none =>
          obtain ⟨few, first, last, at_anchor, at_last, rested⟩ := told
          exact ⟨few, first, last, at_anchor, at_last,
            rested.concat (Moment.keeps_of_unheard silent goes_on)⟩
      | some press =>
          obtain ⟨few, at_press, first, at_anchor, pressing⟩ := told
          exact ⟨few, at_press, first, at_anchor,
            pressing.concat (Moment.keeps_of_unheard silent goes_on)⟩

/-- The history behind a tracker, if it serves the taps. -/
def Story (c : Config) (history : List Moment) : Tracker → Prop
  | .tripleTap p => Behind c history p
  | .pairHold _ _ | .edgeDrag _ => True

theorem explains : Explains Story where
  idle {c history τ} idle := by
    cases τ with
    | tripleTap p =>
        have hp : p = .idle := Phase.stage_eq_idle_iff.1 idle
        subst hp
        trivial
    | pairHold region p => trivial
    | edgeDrag p => trivial
  unheard {c history τ m} told silent goes_on := by
    cases τ with
    | tripleTap p => exact behind_unheard told silent goes_on
    | pairHold region p => trivial
    | edgeDrag p => trivial
  heard {c history τ m s} told heard lasts := by
    cases τ with
    | tripleTap p =>
        rw [tracker_react] at lasts ⊢
        exact behind_concat told heard (course_of_lasts lasts)
    | pairHold region p =>
        rw [PairHold.tracker_react]
        trivial
    | edgeDrag p =>
        rw [EdgeDrag.tracker_react]
        trivial

/-- No more than two taps are ever counted. -/
theorem counted_of_awaiting {τ : Tracker} {n : Nat} (told : Story c history τ)
    (counted : τ.awaiting = some (.taps n)) : n ≤ 2 := by
  cases τ with
  | pairHold region p => cases p <;> cases counted
  | edgeDrag p => cases p <;> cases counted
  | tripleTap p =>
      cases p with
      | idle => cases counted
      | tapping anchor lastDown completed pressed =>
          cases counted
          have few : n < required := by
            cases pressed with
            | none => exact told.1
            | some press => exact told.1
          exact Nat.le_of_lt_succ few

/-- No more than two taps are ever counted, and the gesture fires only with the lift that ends the
third tap of a row. -/
theorem tapped_of_fires (c : Config) (history : List Moment) :
    let r := (Recognizer.ofConfig c).run history
    (∀ n, r.awaiting = some (.taps n) → n ≤ 2) ∧
      (r.config.gesture = .tripleTapDebug → ∀ m, r.Fires m →
        (∃ t, m.request = .touch t ∧ t.kind.isUp = true) ∧
          ∃ before row first last, history ++ [m] = before ++ row ∧
            Taps r.config first 3 last row) := by
  intro r
  refine ⟨fun n counted => counted_of_awaiting (explains.holds_of_run c history) counted, ?_⟩
  intro taps m fires
  obtain ⟨τ, s, serves, told, heard, complete⟩ := explains.holds_of_fires fires
  rw [taps] at serves
  cases τ with
  | pairHold region p => cases region <;> simp [Tracker.gesture] at serves
  | edgeDrag p => simp [Tracker.gesture] at serves
  | tripleTap p =>
      rw [tracker_react] at complete
      obtain ⟨anchor, lastDown, completed, press, b, rfl, rfl, same, short, last⟩ :=
        tapping_of_complete complete
      obtain ⟨few, _, first, _, pressing⟩ := told
      -- the third lift completes the gesture instead of being counted
      have two : completed = 2 := by
        unfold required at few last
        omega
      subst two
      obtain ⟨before, row, split, taps⟩ := pressing.lifted heard same short
      exact ⟨Moment.up_of_lift heard, before, row, first, press, split, taps⟩

/-- Three taps of one spot, the last one about to lift. -/
theorem tapped_of_fires_spot :
    let host : Host := .phone .tripleTapDebug
    let tapped : List Moment := host.touches
      [⟨.down, 0, ⟨100, 100⟩, 0⟩, ⟨.up, 0, ⟨100, 100⟩, 50⟩, ⟨.down, 0, ⟨101, 100⟩, 100⟩,
        ⟨.up, 0, ⟨101, 100⟩, 150⟩, ⟨.down, 0, ⟨100, 101⟩, 200⟩]
    let lifted : Moment := ⟨host, .touch ⟨.up, 0, ⟨100, 101⟩, 250⟩⟩
    let r := (Recognizer.ofConfig (.forScreen .tripleTapDebug 1080 1920)).run tapped
    r.Fires lifted ∧
      ∃ before row first last, tapped ++ [lifted] = before ++ row ∧
        Taps r.config first 3 last row :=
  ⟨by decide +kernel,
    ((tapped_of_fires (.forScreen .tripleTapDebug 1080 1920)
      ((Host.phone .tripleTapDebug).touches
        [⟨.down, 0, ⟨100, 100⟩, 0⟩, ⟨.up, 0, ⟨100, 100⟩, 50⟩, ⟨.down, 0, ⟨101, 100⟩, 100⟩,
          ⟨.up, 0, ⟨101, 100⟩, 150⟩, ⟨.down, 0, ⟨100, 101⟩, 200⟩])).2 (by decide +kernel)
      ⟨.phone .tripleTapDebug, .touch ⟨.up, 0, ⟨100, 101⟩, 250⟩⟩ (by decide +kernel)).2⟩

end TripleTap
end ExitGesture
