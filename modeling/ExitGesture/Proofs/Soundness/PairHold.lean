import ExitGesture.Proofs.History

/-!
# A pair that fires has been held

The tracker of a two-finger gesture keeps two contacts and a timer.  Behind them stands a history in
which both contacts landed in time and in place and have been left alone since.
-/

namespace ExitGesture
namespace PairHold

/-- A first pointer landed and has been left alone since. -/
def Alone (c : Config) (first : Contact) (history : List Moment) : Prop :=
  Since (fun _ d => d.Lands first) (Moment.Keeps (Stimulus.Spares c.driftTolerance first)) history

/-- A second pointer joins one that has been left alone. -/
structure Joins (c : Config) (region : Region) (first second : Contact) (before : List Moment)
    (d : Moment) : Prop where
  alone : Alone c first before
  lands : d.Lands second
  other : second.pointer ≠ first.pointer
  soon : second.time - first.time ≤ c.pairTimeout.millis
  accepted : region.accepts (d.host.view c) first.position second.position = true

/-- A pair has been left alone since the second pointer joined it. -/
def Together (c : Config) (region : Region) (first second : Contact)
    (history : List Moment) : Prop :=
  Since (Joins c region first second)
    (Moment.Keeps fun s => s.Spares c.driftTolerance first ∧ s.Spares c.driftTolerance second)
    history

def Behind (c : Config) (region : Region) (history : List Moment) : Phase → Prop
  | .idle => True
  | .awaitingSecond first => Alone c first history
  | .holding first second timer =>
      Together c region first second history ∧ timer.since = second.time

theorem Together.distinct {c : Config} {region : Region} {first second : Contact}
    {history : List Moment} (together : Together c region first second history) :
    first.pointer ≠ second.pointer := by
  obtain ⟨_, _, _, _, joins, _⟩ := together
  exact joins.other.symm

theorem behind_concat {c : Config} {region : Region} {history : List Moment} {m : Moment}
    {s : Stimulus} {p p' : Phase} (told : Behind c region history p)
    (heard : m.stimulus? = some s) (course : Course region (m.host.view c) p s p') :
    Behind c region (history ++ [m]) p' := by
  cases course with
  | rest => trivial
  | first contact => exact since_of_now heard
  | again first contact => exact since_of_now heard
  | pair other soon accepted =>
      exact ⟨since_of_now ⟨told, heard, other, soon, accepted⟩, rfl⟩
  | wait none_lands spared =>
      exact told.concat (Moment.keeps_of_heard heard none_lands spared)
  | hold undisturbed since =>
      obtain ⟨together, since_second⟩ := told
      have spared := undisturbed.second_spared together.distinct
      refine ⟨together.concat ?_, since.trans since_second⟩
      exact Moment.keeps_of_heard heard undisturbed.none_lands ⟨undisturbed.first_spared, spared⟩

/-- The history behind a tracker, if it serves a two-finger gesture. -/
def Story (c : Config) (history : List Moment) : Tracker → Prop
  | .pairHold region p => Behind c region history p
  | .edgeDrag _ | .tripleTap _ => True

theorem explains : Explains Story where
  idle {c history τ} idle := by
    cases τ with
    | pairHold region p =>
        have hp : p = .idle := Phase.stage_eq_idle_iff.1 idle
        subst hp
        trivial
    | edgeDrag p => trivial
    | tripleTap p => trivial
  unheard {c history τ m} told silent goes_on := by
    cases τ with
    | pairHold region p =>
        cases p with
        | idle => trivial
        | awaitingSecond first =>
            exact Since.concat told (Moment.keeps_of_unheard silent goes_on)
        | holding first second timer =>
            exact ⟨told.1.concat (Moment.keeps_of_unheard silent goes_on), told.2⟩
    | edgeDrag p => trivial
    | tripleTap p => trivial
  heard {c history τ m s} told heard lasts := by
    cases τ with
    | pairHold region p =>
        rw [tracker_react] at lasts ⊢
        exact behind_concat told heard (course_of_lasts lasts)
    | edgeDrag p =>
        rw [EdgeDrag.tracker_react]
        trivial
    | tripleTap p =>
        rw [TripleTap.tracker_react]
        trivial

/-- How a pair comes to be held: `first` lands at `d₁` and is left alone for `between`, `second`
joins it at `d₂`, and both are left alone for `after`. -/
structure Held (c : Config) (first second : Contact) (d₁ : Moment) (between : List Moment)
    (d₂ : Moment) (after : List Moment) : Prop where
  first_lands : d₁.Lands first
  second_lands : d₂.Lands second
  distinct : first.pointer ≠ second.pointer
  soon : second.time - first.time ≤ c.pairTimeout.millis
  in_corners : c.gesture = .oppositeCornersHold →
    (Surface.ofConfig c).isOppositePair first.position second.position = true
  in_header : c.gesture = .twoFingerHeaderHold →
    d₂.host.header.contains first.position = true ∧
      d₂.host.header.contains second.position = true
  alone : ∀ n ∈ between, n.Keeps (Stimulus.Spares c.driftTolerance first)
  together : ∀ n ∈ after,
    n.Keeps fun s => s.Spares c.driftTolerance first ∧ s.Spares c.driftTolerance second

theorem Together.held {c : Config} {region : Region} {p : Phase} {first second : Contact}
    {history : List Moment} (together : Together c region first second history)
    (serves : (Tracker.pairHold region p).gesture = c.gesture) :
    ∃ before d₁ between d₂ after, history = before ++ d₁ :: (between ++ d₂ :: after) ∧
      Held c first second d₁ between d₂ after := by
  obtain ⟨front, d₂, after, rfl, joins, left_together⟩ := together
  obtain ⟨before, d₁, between, rfl, lands, left_alone⟩ := joins.alone
  refine ⟨before, d₁, between, d₂, after, by simp, ?_⟩
  exact
    { first_lands := lands
      second_lands := joins.lands
      distinct := joins.other.symm
      soon := joins.soon
      in_corners := by
        intro corners
        cases region with
        | oppositeCorners => exact joins.accepted
        | header => simp [← serves, Tracker.gesture] at corners
      in_header := by
        intro header
        cases region with
        | oppositeCorners => simp [← serves, Tracker.gesture] at header
        | header => simpa [Region.accepts, Host.view] using joins.accepted
      alone := left_alone
      together := left_together }

/-- A two-finger gesture fires only for a pair that was held undisturbed for as long as it takes. -/
theorem held_of_fires (c : Config) (history : List Moment) (m : Moment)
    (pairs : ((Recognizer.ofConfig c).run history).config.gesture.pairsPointers = true)
    (fires : ((Recognizer.ofConfig c).run history).Fires m) :
    let used := ((Recognizer.ofConfig c).run history).config
    ∃ before d₁ between d₂ after first second s,
      history = before ++ d₁ :: (between ++ d₂ :: after) ∧
        Held used first second d₁ between d₂ (after ++ [m]) ∧
        m.stimulus? = some s ∧ used.hold.millis ≤ s.time - second.time := by
  intro used
  obtain ⟨τ, s, serves, told, heard, complete⟩ := explains.holds_of_fires fires
  cases τ with
  | edgeDrag p => simp [← serves, Tracker.gesture, Gesture.pairsPointers] at pairs
  | tripleTap p => simp [← serves, Tracker.gesture, Gesture.pairsPointers] at pairs
  | pairHold region p =>
      rw [tracker_react] at complete
      obtain ⟨first, second, timer, rfl, undisturbed, long⟩ := holding_of_complete complete
      obtain ⟨together, since⟩ := told
      obtain ⟨before, d₁, between, d₂, after, split, held⟩ := together.held serves
      refine ⟨before, d₁, between, d₂, after, first, second, s, split, ?_, heard, since ▸ long⟩
      have spared := undisturbed.second_spared held.distinct
      have kept : m.Keeps fun s =>
          s.Spares used.driftTolerance first ∧ s.Spares used.driftTolerance second :=
        Moment.keeps_of_heard heard undisturbed.none_lands ⟨undisturbed.first_spared, spared⟩
      exact
        { held with
          together := List.forall_mem_append.2 ⟨held.together, List.forall_mem_singleton.2 kept⟩ }

/-- Two pointers held in opposite corners until a tick completes the gesture. -/
theorem held_of_fires_corners :
    let landings := (Host.phone .oppositeCornersHold).touches
      [⟨.down, 0, ⟨10, 10⟩, 0⟩, ⟨.pointerDown, 1, ⟨1070, 1910⟩, 50⟩]
    let fired : Moment := ⟨.phone .oppositeCornersHold, .tick 2550⟩
    let r := (Recognizer.ofConfig (.forScreen .oppositeCornersHold 1080 1920)).run landings
    r.Fires fired ∧
      ∃ before d₁ between d₂ after first second s,
        landings = before ++ d₁ :: (between ++ d₂ :: after) ∧
          Held r.config first second d₁ between d₂ (after ++ [fired]) ∧
          fired.stimulus? = some s ∧ r.config.hold.millis ≤ s.time - second.time :=
  ⟨by decide +kernel,
    held_of_fires (.forScreen .oppositeCornersHold 1080 1920)
      ((Host.phone .oppositeCornersHold).touches
        [⟨.down, 0, ⟨10, 10⟩, 0⟩, ⟨.pointerDown, 1, ⟨1070, 1910⟩, 50⟩])
      ⟨.phone .oppositeCornersHold, .tick 2550⟩ (by decide +kernel) (by decide +kernel)⟩

end PairHold
end ExitGesture
