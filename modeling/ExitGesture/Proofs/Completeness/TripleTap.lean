import ExitGesture.Proofs.Completeness.Basic
import ExitGesture.Proofs.Soundness.TripleTap

/-!
# Three taps fire unless an earlier one captures the first

Three quick taps in one spot ought to fire, whatever was before.  They do, except in one case.  A
series keeps the place of its first tap and a count, and a tap that lands too far from that place
begins a series of its own.  If one tap has been counted already, and the first of the three lands
with it, the second of the three may be too far from that earlier place.  The series begins again
with the second, the first is forgotten although it was near enough, and only two are counted.

**Results.**
* `fires_iff_of_triple`: three taps fire exactly if no earlier tap captures the first of them.
* `captured_and_silent`: three taps that do not fire.
-/

namespace ExitGesture
namespace TripleTap

/-- A tap that is heard: `press` lands on an empty surface and lifts in time. -/
structure QuickTap (c : Config) (press : Contact) (d u : Moment) : Prop where
  lands : d.Hears ⟨.down, press⟩
  lifts : ∃ b : Contact, u.Hears ⟨.up, b⟩ ∧ b.pointer = press.pointer ∧
    b.time - press.time ≤ c.tapTimeout.millis

/-- Three quick taps that follow one another in time, the later ones near the first. -/
inductive Triple (c : Config) (first second : Contact) : List Moment → Prop
  | taps {third : Contact} {d₁ u₁ d₂ u₂ d₃ u₃ : Moment} (one : QuickTap c first d₁ u₁)
      (two : QuickTap c second d₂ u₂) (three : QuickTap c third d₃ u₃)
      (soon₂ : second.time - first.time ≤ c.tapTimeout.millis)
      (soon₃ : third.time - second.time ≤ c.tapTimeout.millis)
      (near₂ : ¬ c.driftTolerance < first.drift second)
      (near₃ : ¬ c.driftTolerance < first.drift third) :
      Triple c first second [d₁, u₁, d₂, u₂, d₃, u₃]

/-- A contact lands with a series that is between two taps. -/
structure Joins (c : Config) (anchor : Point) (lastDown : Time) (press : Contact) : Prop where
  soon : press.time - lastDown ≤ c.tapTimeout.millis
  near : ¬ c.driftTolerance < anchor.distance press.position

instance (c : Config) (anchor : Point) (lastDown : Time) (press : Contact) :
    Decidable (Joins c anchor lastDown press) :=
  decidable_of_iff (press.time - lastDown ≤ c.tapTimeout.millis ∧
      ¬ c.driftTolerance < anchor.distance press.position)
    ⟨fun both => ⟨both.1, both.2⟩, fun joins => ⟨joins.soon, joins.near⟩⟩

/-- An earlier tap takes the first of three for the second of its own series, and the second of the
three is too far from it. -/
def Captured (r : Recognizer) (first second : Contact) : Prop :=
  ∃ anchor lastDown, r.tracker = .tripleTap (.tapping anchor lastDown 1 none) ∧
    Joins r.config anchor lastDown first ∧
      r.config.driftTolerance < anchor.distance second.position

/-- The place and the count of the series to which a landing belongs. -/
def series (c : Config) (press : Contact) : Phase → Point × Nat
  | .tapping anchor lastDown completed none =>
      if Joins c anchor lastDown press then (anchor, completed) else (press.position, 0)
  | .idle | .tapping _ _ _ (some _) => (press.position, 0)

section Step

variable {c : Config} {press : Contact} {anchor : Point} {lastDown : Time} {completed : Nat}

theorem series_of_joins (joins : Joins c anchor lastDown press) :
    series c press (.tapping anchor lastDown completed none) = (anchor, completed) :=
  if_pos joins

theorem series_of_not_joins (apart : ¬ Joins c anchor lastDown press) :
    series c press (.tapping anchor lastDown completed none) = (press.position, 0) :=
  if_neg apart

/-- A landing counts no tap. -/
theorem series_le (c : Config) (press : Contact) (anchor : Point) (lastDown : Time)
    (completed : Nat) :
    (series c press (.tapping anchor lastDown completed none)).2 ≤ completed := by
  by_cases joins : Joins c anchor lastDown press
  · exact Nat.le_of_eq (congrArg Prod.snd (series_of_joins joins))
  · rw [series_of_not_joins joins]
    exact Nat.zero_le _

/-- A landing goes on with a series or begins one. -/
theorem series_cases (c : Config) (press : Contact) (p : Phase) :
    series c press p = (press.position, 0) ∨
      ∃ anchor lastDown completed, p = .tapping anchor lastDown completed none ∧
        Joins c anchor lastDown press ∧ series c press p = (anchor, completed) := by
  match p with
  | .idle => exact Or.inl rfl
  | .tapping _ _ _ (some _) => exact Or.inl rfl
  | .tapping anchor lastDown completed none =>
      by_cases joins : Joins c anchor lastDown press
      · exact Or.inr ⟨anchor, lastDown, completed, rfl, joins, series_of_joins joins⟩
      · exact Or.inl (series_of_not_joins joins)

/-- What a landing makes of a series that has no tap in progress. -/
theorem step_land {v : View} {p : Phase} (press : Contact) (none_pressed : p.tracked? = none) :
    step v p .land press =
      (.tapping (series v.config press p).1 press.time (series v.config press p).2 (some press),
        .proceed false) := by
  match p with
  | .idle => rfl
  | .tapping _ _ _ (some _) => cases none_pressed
  | .tapping anchor lastDown completed none =>
      by_cases joins : Joins v.config anchor lastDown press
      · have goes_on : (overdue v lastDown press.time ||
            v.strays (anchor.distance press.position)) = false := by
          rw [Bool.or_eq_false_iff]
          exact ⟨not_overdue_iff.2 joins.soon, View.not_strays_iff.2 joins.near⟩
        simp [step, land, goes_on, series_of_joins joins]
      · have restarts : (overdue v lastDown press.time ||
            v.strays (anchor.distance press.position)) = true := by
          by_contra goes_on
          rw [Bool.not_eq_true, Bool.or_eq_false_iff] at goes_on
          exact joins ⟨not_overdue_iff.1 goes_on.1, View.not_strays_iff.1 goes_on.2⟩
        simp [step, land, restarts, series_of_not_joins joins, start]

/-- What the lift of a quick tap decides. -/
theorem react_lift {v : View} {b : Contact} (same : b.pointer = press.pointer)
    (short : b.time - press.time ≤ v.config.tapTimeout.millis) :
    react v (.tapping anchor lastDown completed (some press)) (.motion .lift b) =
      if required ≤ completed + 1 then
        (.tapping anchor lastDown completed (some press), .complete)
      else (.tapping anchor lastDown (completed + 1) none, .proceed false) := by
  have timely : overdue v press.time b.time = false := not_overdue_iff.2 short
  simp [react, step, same, timely]

end Step

/-! ### One tap -/

/-- A recognizer that works from a configuration has come to a phase of the taps. -/
structure At (c : Config) (p : Phase) (r : Recognizer) : Prop where
  wellFormed : r.WellFormed
  config : r.config = c
  tracker : r.tracker = .tripleTap p

section OneTap

variable {c : Config} {r : Recognizer} {p : Phase} {press : Contact} {anchor : Point} {n : Nat}
  {d u : Moment}

/-- A first landing finds a series that has no tap in progress: a tap that nobody saw end is given
up, and then the landing belongs to no series. -/
theorem At.readied (stands : At c p r) (press : Contact) {t : Touch} (down : t.kind = .down) :
    ∃ p', ((r.counted t).readied t).tracker = .tripleTap p' ∧ p'.tracked? = none ∧
      series c press p' = series c press p := by
  have tracker := stands.tracker
  have tracked : (r.counted t).tracked = p.tracked?.toList := congrArg Tracker.tracked tracker
  match p with
  | .idle =>
      refine ⟨.idle, ?_, rfl, rfl⟩
      rw [Recognizer.readied, if_neg (by simp [tracked, Phase.tracked?])]
      exact tracker
  | .tapping anchor lastDown completed none =>
      refine ⟨.tapping anchor lastDown completed none, ?_, rfl, rfl⟩
      rw [Recognizer.readied, if_neg (by simp [tracked, Phase.tracked?])]
      exact tracker
  | .tapping anchor lastDown completed (some pressed) =>
      refine ⟨.idle, ?_, rfl, rfl⟩
      rw [Recognizer.readied, if_pos (by simp [down, tracked, Phase.tracked?]),
        Recognizer.state_abandon]
      exact congrArg Tracker.cleared tracker

/-- The landing of a tap, whatever was before it. -/
theorem At.land (stands : At c p r) (lands : d.Hears ⟨.down, press⟩)
    (belongs : series c press p = (anchor, n)) :
    ¬ r.Fires d ∧
      (r.after d).Pursues c (.tripleTap (.tapping anchor press.time n (some press))) := by
  obtain ⟨h, q⟩ := d
  obtain ⟨listening, asked⟩ := lands
  obtain rfl : q = .touch ⟨.down, press⟩ := asked
  obtain ⟨p', ready, none_pressed, same⟩ := stands.readied press (t := ⟨.down, press⟩) rfl
  obtain ⟨wf, rfl, _⟩ := stands
  have step := step_land (v := h.view r.config) press none_pressed
  rw [show series (h.view r.config).config press p' = (anchor, n) from same.trans belongs] at step
  have steps : ((r.counted ⟨.down, press⟩).readied ⟨.down, press⟩).tracker.step (h.view r.config)
      .land press = (.tripleTap (.tapping anchor press.time n (some press)), .proceed false) := by
    rw [ready]
    exact congrArg (Prod.map Tracker.tripleTap id) step
  obtain ⟨rests, _, pursues⟩ :=
    Recognizer.pursues_down (t := ⟨.down, press⟩) wf listening rfl steps
  exact ⟨rests, pursues⟩

/-- One tap, whatever was before it.  It fires by its lift if it is the third of its series, and is
counted otherwise. -/
theorem At.tap (stands : At c p r) (tap : QuickTap c press d u)
    (belongs : series c press p = (anchor, n)) (rest : List Moment) :
    (Signal.triggered ∈ r.signals (d :: u :: rest) ↔
        required ≤ n + 1 ∨ Signal.triggered ∈ ((r.after d).after u).signals rest) ∧
      (n + 1 < required →
        At c (.tapping anchor press.time (n + 1) none) ((r.after d).after u)) := by
  obtain ⟨b, ⟨listening, asked⟩, same, short⟩ := tap.lifts
  obtain ⟨rests, pursues⟩ := stands.land tap.lands belongs
  have heard : u.stimulus? = some (.motion .lift b) := by
    simp [Moment.stimulus?, listening, asked, Touch.Kind.motion?]
  have joins : u.Joins (r.after d) := by
    intro t asked'
    obtain rfl : t = ⟨.up, b⟩ := by simpa [asked] using asked'.symm
    simp
  obtain ⟨fires, goes_on, _⟩ := pursues.perceive heard joins
  rw [tracker_react, react_lift (v := u.host.view c) same short] at fires goes_on
  constructor
  · rw [Recognizer.triggered_mem_signals_cons, Recognizer.triggered_mem_signals_cons,
      or_iff_right rests, fires]
    by_cases last : required ≤ n + 1
    · simp [last]
    · simp [last]
  · intro more
    rw [if_neg (Nat.not_le.2 more)] at goes_on
    have counted := goes_on rfl
    exact ⟨counted.wellFormed, counted.config, counted.tracker⟩

end OneTap

/-! ### Three taps -/

/-- Between two taps one has been counted, or two. -/
theorem counted_of_between {c : Config} {history : List Moment} {anchor : Point} {lastDown : Time}
    {n : Nat} (told : Behind c history (.tapping anchor lastDown n none)) : n = 1 ∨ n = 2 := by
  obtain ⟨few, first, last, _, _, before, row, pause, _, taps, _⟩ := told
  have some_counted : 0 < n := by
    cases taps with
    | one => exact Nat.one_pos
    | more => exact Nat.succ_pos _
  unfold required at few
  omega

/-- Whatever was before, three quick taps in one spot fire by the third lift at the latest, exactly
if no earlier tap captures the first of them. -/
theorem fires_iff_of_triple (c : Config) (history : List Moment) {first second : Contact}
    {ms : List Moment}
    (taps : ((Recognizer.ofConfig c).run history).config.gesture = .tripleTapDebug)
    (triple : Triple ((Recognizer.ofConfig c).run history).config first second ms) :
    let r := (Recognizer.ofConfig c).run history
    Signal.triggered ∈ r.signals ms ↔ ¬ Captured r first second := by
  intro r
  have wf : r.WellFormed := (Recognizer.WellFormed.ofConfig c).run history
  have told : Story r.config history r.tracker := explains.holds_of_run c history
  obtain ⟨p, tracker⟩ := Tracker.tripleTap_of_gesture (wf.gesture.trans taps)
  have stands : At r.config p r := ⟨wf, rfl, tracker⟩
  obtain @⟨third, _, _, _, _, _, _, one, two, three, soon₂, soon₃, near₂, near₃⟩ := triple
  rcases series_cases r.config first p with begins | ⟨anchor, lastDown, n, rfl, joins, goes_on⟩
  · -- the first tap begins a series, and the others go on with it
    obtain ⟨fires₁, counts₁⟩ := stands.tap one begins _
    obtain ⟨fires₂, counts₂⟩ :=
      (counts₁ (by decide)).tap two (series_of_joins ⟨soon₂, near₂⟩) _
    obtain ⟨fires₃, _⟩ := (counts₂ (by decide)).tap three (series_of_joins ⟨soon₃, near₃⟩) []
    have free : ¬ Captured r first second := by
      rintro ⟨anchor, lastDown, same, joins, _⟩
      obtain rfl : p = _ := Tracker.tripleTap.inj (tracker.symm.trans same)
      simp [series_of_joins joins] at begins
    rw [fires₁, fires₂, fires₃]
    exact iff_of_true (Or.inr (Or.inr (Or.inl (by decide)))) free
  · rw [tracker] at told
    obtain ⟨fires₁, counts₁⟩ := stands.tap one goes_on _
    rw [fires₁]
    rcases counted_of_between told with rfl | rfl
    · have counts₁ := counts₁ (by decide)
      by_cases far : r.config.driftTolerance < anchor.distance second.position
      · -- the series begins again with the second tap, and the first is forgotten
        have apart : ¬ Joins r.config anchor first.time second := fun joins => joins.near far
        obtain ⟨fires₂, counts₂⟩ := counts₁.tap two (series_of_not_joins apart) _
        have few := series_le r.config third second.position second.time 1
        obtain ⟨fires₃, _⟩ := (counts₂ (by decide)).tap three (Prod.eta _).symm []
        have captured : Captured r first second := ⟨anchor, lastDown, tracker, joins, far⟩
        rw [fires₂, fires₃]
        refine iff_of_false ?_ (not_not_intro captured)
        rintro (last | last | last | none)
        · exact absurd last (by decide)
        · exact absurd last (by decide)
        · exact absurd (Nat.le_trans last (Nat.succ_le_succ few)) (by decide)
        · cases none
      · obtain ⟨fires₂, _⟩ := counts₁.tap two (series_of_joins ⟨soon₂, far⟩) _
        have free : ¬ Captured r first second := by
          rintro ⟨anchor', lastDown', same, _, far'⟩
          cases tracker.symm.trans same
          exact far far'
        rw [fires₂]
        exact iff_of_true (Or.inr (Or.inl (by decide))) free
    · have free : ¬ Captured r first second := by
        rintro ⟨anchor', lastDown', same, _⟩
        cases tracker.symm.trans same
      exact iff_of_true (Or.inl (by decide)) free

/-- Three quick taps in one spot. -/
def spotTaps : List Moment :=
  (Host.phone .tripleTapDebug).touches
    [⟨.down, 0, ⟨120, 100⟩, 100⟩, ⟨.up, 0, ⟨120, 100⟩, 150⟩, ⟨.down, 0, ⟨130, 100⟩, 200⟩,
      ⟨.up, 0, ⟨130, 100⟩, 250⟩, ⟨.down, 0, ⟨130, 100⟩, 300⟩, ⟨.up, 0, ⟨130, 100⟩, 350⟩]

theorem triple_spotTaps :
    Triple (.forScreen .tripleTapDebug 1080 1920) ⟨0, ⟨120, 100⟩, 100⟩ ⟨0, ⟨130, 100⟩, 200⟩
      spotTaps :=
  .taps ⟨⟨rfl, rfl⟩, _, ⟨rfl, rfl⟩, rfl, by decide +kernel⟩
    ⟨⟨rfl, rfl⟩, _, ⟨rfl, rfl⟩, rfl, by decide +kernel⟩
    ⟨⟨rfl, rfl⟩, _, ⟨rfl, rfl⟩, rfl, by decide +kernel⟩
    (by decide +kernel) (by decide +kernel) (by decide +kernel) (by decide +kernel)

/-- A pointer was pressed, and nobody heard of its end.  Three taps far from it fire. -/
theorem fires_iff_of_triple_lost :
    let history := (Host.phone .tripleTapDebug).touches [⟨.down, 7, ⟨500, 500⟩, 0⟩]
    let first : Contact := ⟨0, ⟨120, 100⟩, 100⟩
    let second : Contact := ⟨0, ⟨130, 100⟩, 200⟩
    let r := (Recognizer.ofConfig (.forScreen .tripleTapDebug 1080 1920)).run history
    r.config.gesture = .tripleTapDebug ∧ Triple r.config first second spotTaps ∧
      r.tracked = [7] ∧ ¬ Captured r first second ∧ Signal.triggered ∈ r.signals spotTaps := by
  intro history first second r
  have config : r.config = .forScreen .tripleTapDebug 1080 1920 := by decide +kernel
  have taps : r.config.gesture = .tripleTapDebug := congrArg Config.gesture config
  have triple : Triple r.config first second spotTaps := config.symm ▸ triple_spotTaps
  have tracked : r.tracked = [7] := by decide +kernel
  have free : ¬ Captured r first second := by
    rintro ⟨anchor, lastDown, between, _⟩
    simp [Recognizer.tracked, between, Tracker.tracked, Phase.tracked?] at tracked
  exact ⟨taps, triple, tracked, free, (fires_iff_of_triple _ history taps triple).2 free⟩

/-- One tap was made before the three, near enough to the first of them alone.  None of them
fires. -/
theorem captured_and_silent :
    let history := (Host.phone .tripleTapDebug).touches
      [⟨.down, 0, ⟨100, 100⟩, 0⟩, ⟨.up, 0, ⟨100, 100⟩, 50⟩]
    let r := (Recognizer.ofConfig (.forScreen .tripleTapDebug 1080 1920)).run history
    r.config.gesture = .tripleTapDebug ∧
      Triple r.config ⟨0, ⟨120, 100⟩, 100⟩ ⟨0, ⟨130, 100⟩, 200⟩ spotTaps ∧
      Signal.triggered ∉ r.signals spotTaps := by
  intro history r
  have config : r.config = .forScreen .tripleTapDebug 1080 1920 := by decide +kernel
  exact ⟨congrArg Config.gesture config, config.symm ▸ triple_spotTaps, by decide +kernel⟩

end TripleTap
end ExitGesture
