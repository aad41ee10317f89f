import ExitGesture.Proofs.History

/-!
# A drag that fires was pressed long, dragged and held at an edge

The tracker of a drag forgets the place of the press once the long press is over, and the way to the
edge once the edge is reached.  The history behind its phases has all three parts.
-/

namespace ExitGesture
namespace EdgeDrag

/-- A pointer landed and has been pressed in place since, not yet for long. -/
def Pressed (c : Config) (press : Contact) (history : List Moment) : Prop :=
  Since (fun _ d => d.Lands press) (Moment.Keeps (Presses c press)) history

/-- A moment finds a pressed pointer at a place when the long press is over. -/
structure Promotes (c : Config) (press : Contact) (place : Point) (now : Time)
    (before : List Moment) (q : Moment) : Prop where
  pressed : Pressed c press before
  found : ∃ s last, q.stimulus? = some s ∧ s.time = now ∧
    lastPlace? press.pointer before = some last ∧ s.Finds press.pointer last place
  long : c.longPress.millis ≤ now - press.time

/-- A pointer has been down since its long press. -/
def Dragged (c : Config) (press : Contact) (history : List Moment) : Prop :=
  Since (fun before q => ∃ place now, Promotes c press place now before q)
    (Moment.Keeps (Stimulus.LeavesDown press.pointer)) history

/-- A moment finds the pointer at an edge: when the long press is over, or by a move after it. -/
structure Arrives (c : Config) (press : Contact) (anchor : Point) (now : Time)
    (before : List Moment) (r : Moment) : Prop where
  at_edge : (Surface.ofConfig c).isAtEdge anchor = true
  came : Promotes c press anchor now before r ∨
    Dragged c press before ∧ r.stimulus? = some (.motion .move ⟨press.pointer, anchor, now⟩)

/-- A pointer has been held at an edge since it arrived there. -/
def AtEdge (c : Config) (press : Contact) (anchor : Point) (arrived : Time)
    (history : List Moment) : Prop :=
  Since (Arrives c press anchor arrived)
    (Moment.Keeps (Holds (.ofConfig c) c.driftTolerance press.pointer anchor)) history

/-- The history behind a phase. -/
def Behind (c : Config) (history : List Moment) : Phase → Prop
  | .idle => True
  | .pressed press last =>
      Pressed c press history ∧ lastPlace? press.pointer history = some last
  | .dragging pointer => ∃ press, press.pointer = pointer ∧ Dragged c press history
  | .holding pointer anchor timer =>
      ∃ press, press.pointer = pointer ∧ AtEdge c press anchor timer.since history

variable {c : Config} {history : List Moment} {m : Moment} {s : Stimulus}

theorem behind_promoted {press : Contact} {place : Point} {now : Time}
    (promotes : Promotes c press place now history m) :
    Behind c (history ++ [m]) (arrive (m.host.view c) press.pointer place now) := by
  unfold arrive
  split
  · next edge => exact ⟨press, rfl, since_of_now ⟨edge, Or.inl promotes⟩⟩
  · exact ⟨press, rfl, since_of_now ⟨place, now, promotes⟩⟩

theorem behind_followed {press b : Contact} (dragged : Dragged c press history)
    (same : b.pointer = press.pointer) (heard : m.stimulus? = some (.motion .move b)) :
    Behind c (history ++ [m]) (arrive (m.host.view c) press.pointer b.position b.time) := by
  unfold arrive
  split
  · next edge =>
      have moved : m.stimulus? = some (.motion .move ⟨press.pointer, b.position, b.time⟩) := by
        rw [heard, ← same]
      exact ⟨press, rfl, since_of_now ⟨edge, Or.inr ⟨dragged, moved⟩⟩⟩
  · exact ⟨press, rfl, dragged.concat (Moment.keeps_of_heard heard trivial trivial)⟩

theorem behind_concat {p p' : Phase} (told : Behind c history p) (heard : m.stimulus? = some s)
    (course : Course (m.host.view c) p s p') : Behind c (history ++ [m]) p' := by
  cases course with
  | rest => trivial
  | press contact =>
      refine ⟨since_of_now heard, ?_⟩
      rw [lastPlace?_concat, heard]
      simp [Stimulus.place?]
  | @wait press last _ presses =>
      obtain ⟨pressed, seen⟩ := told
      refine ⟨pressed.concat (Moment.keeps_of_heard heard presses.none_lands presses), ?_⟩
      rw [lastPlace?_concat, heard, seen]
      cases place : s.place? press.pointer <;> simp [place]
  | @promote press last place _ found long =>
      exact behind_promoted ⟨told.1, ⟨s, last, heard, rfl, told.2, found⟩, long⟩
  | stray none_lands down =>
      obtain ⟨press, rfl, dragged⟩ := told
      exact ⟨press, rfl, dragged.concat (Moment.keeps_of_heard heard none_lands down)⟩
  | follow same =>
      obtain ⟨press, rfl, dragged⟩ := told
      exact behind_followed dragged same heard
  | hold holds since =>
      obtain ⟨press, rfl, at_edge⟩ := told
      refine ⟨press, rfl, ?_⟩
      rw [since]
      exact at_edge.concat (Moment.keeps_of_heard heard holds.none_lands holds)

theorem behind_unheard {p : Phase} (told : Behind c history p) (silent : m.stimulus? = none)
    (goes_on : ¬ m.Interrupts) : Behind c (history ++ [m]) p := by
  cases p with
  | idle => trivial
  | pressed press last =>
      refine ⟨told.1.concat (Moment.keeps_of_unheard silent goes_on), ?_⟩
      rw [lastPlace?_concat, silent]
      exact told.2
  | dragging pointer =>
      obtain ⟨press, same, dragged⟩ := told
      exact ⟨press, same, dragged.concat (Moment.keeps_of_unheard silent goes_on)⟩
  | holding pointer anchor timer =>
      obtain ⟨press, same, at_edge⟩ := told
      exact ⟨press, same, at_edge.concat (Moment.keeps_of_unheard silent goes_on)⟩

/-- The history behind a tracker, if it serves the drag. -/
def Story (c : Config) (history : List Moment) : Tracker → Prop
  | .edgeDrag p => Behind c history p
  | .pairHold _ _ | .tripleTap _ => True

theorem explains : Explains Story where
  idle {c history τ} idle := by
    cases τ with
    | edgeDrag p =>
        have hp : p = .idle := Phase.stage_eq_idle_iff.1 idle
        subst hp
        trivial
    | pairHold region p => trivial
    | tripleTap p => trivial
  unheard {c history τ m} told silent goes_on := by
    cases τ with
    | edgeDrag p => exact behind_unheard told silent goes_on
    | pairHold region p => trivial
    | tripleTap p => trivial
  heard {c history τ m s} told heard lasts := by
    cases τ with
    | edgeDrag p =>
        rw [tracker_react] at lasts ⊢
        exact behind_concat told heard (course_of_lasts lasts)
    | pairHold region p =>
        rw [PairHold.tracker_react]
        trivial
    | tripleTap p =>
        rw [TripleTap.tracker_react]
        trivial

/-- A long press: `press` lands at `d` and stays in place for `pressing`, and `q` finds it at
`place` when the long press is over. -/
structure LongPress (c : Config) (press : Contact) (place : Point) (now : Time)
    (before : List Moment) (d : Moment) (pressing : List Moment) (q : Moment) : Prop where
  lands : d.Lands press
  in_place : ∀ n ∈ pressing, n.Keeps (Presses c press)
  found : ∃ s last, q.stimulus? = some s ∧ s.time = now ∧
    lastPlace? press.pointer (before ++ d :: pressing) = some last ∧
      s.Finds press.pointer last place
  long : c.longPress.millis ≤ now - press.time

/-- The arrival of a pointer that was at `place` when its long press was over: it is there at once,
or comes there by a move among the `rest`, and `after` is what follows its arrival. -/
inductive Arrival (pointer : PointerId) (place : Point) (now : Time) (rest : List Moment) :
    Point → Time → List Moment → Prop
  | at_once : Arrival pointer place now rest place now rest
  | later {way after : List Moment} {r : Moment} {anchor : Point} {arrived : Time}
      (split : rest = way ++ r :: after)
      (moves : r.stimulus? = some (.motion .move ⟨pointer, anchor, arrived⟩)) :
      Arrival pointer place now rest anchor arrived after

theorem Promotes.split {press : Contact} {place : Point} {now : Time} {q : Moment}
    (promotes : Promotes c press place now history q) :
    ∃ before d pressing, history = before ++ d :: pressing ∧
      LongPress c press place now before d pressing q := by
  obtain ⟨before, d, pressing, rfl, lands, in_place⟩ := promotes.pressed
  exact ⟨before, d, pressing, rfl, lands, in_place, promotes.found, promotes.long⟩

theorem AtEdge.split {press : Contact} {anchor : Point} {arrived : Time}
    (held : AtEdge c press anchor arrived history) :
    (Surface.ofConfig c).isAtEdge anchor = true ∧
      ∃ before d pressing q rest place now after,
        history = before ++ d :: (pressing ++ q :: rest) ∧
          LongPress c press place now before d pressing q ∧
          Arrival press.pointer place now rest anchor arrived after ∧
          (∀ n ∈ rest, n.Keeps (Stimulus.LeavesDown press.pointer)) ∧
          ∀ n ∈ after, n.Keeps (Holds (.ofConfig c) c.driftTolerance press.pointer anchor) := by
  obtain ⟨front, r, after, rfl, ⟨at_edge, promotes | ⟨dragged, moves⟩⟩, holds⟩ := held
  · -- the long press ended at the edge, and nothing lies between
    obtain ⟨before, d, pressing, rfl, long_press⟩ := promotes.split
    refine ⟨at_edge, before, d, pressing, r, after, anchor, arrived, after, by simp, long_press,
      .at_once, ?_, holds⟩
    intro n mem
    exact (holds n mem).imp fun _ => Holds.down
  · obtain ⟨front, q, way, rfl, ⟨place, now, promotes⟩, down⟩ := dragged
    obtain ⟨before, d, pressing, rfl, long_press⟩ := promotes.split
    refine ⟨at_edge, before, d, pressing, q, way ++ r :: after, place, now, after, by simp,
      long_press, .later rfl moves, ?_, holds⟩
    intro n mem
    rcases List.mem_append.1 mem with mem | mem
    · exact down n mem
    · rcases List.mem_cons.1 mem with rfl | mem
      · exact Moment.keeps_of_heard moves trivial trivial
      · exact (holds n mem).imp fun _ => Holds.down

/-- The drag fires only for a pointer that was pressed long, came to an edge, and was held there for
as long as it takes. -/
theorem dragged_of_fires (c : Config) (history : List Moment) (m : Moment)
    (drags : ((Recognizer.ofConfig c).run history).config.gesture = .singleFingerEdgeDragHold)
    (fires : ((Recognizer.ofConfig c).run history).Fires m) :
    let used := ((Recognizer.ofConfig c).run history).config
    ∃ before d pressing q rest press place now anchor arrived after s,
      history = before ++ d :: (pressing ++ q :: rest) ∧
        LongPress used press place now before d pressing q ∧
        Arrival press.pointer place now rest anchor arrived after ∧
        (Surface.ofConfig used).isAtEdge anchor = true ∧
        (∀ n ∈ rest ++ [m], n.Keeps (Stimulus.LeavesDown press.pointer)) ∧
        (∀ n ∈ after ++ [m],
          n.Keeps (Holds (.ofConfig used) used.driftTolerance press.pointer anchor)) ∧
        m.stimulus? = some s ∧ used.hold.millis ≤ s.time - arrived := by
  intro used
  obtain ⟨τ, s, serves, told, heard, complete⟩ := explains.holds_of_fires fires
  rw [drags] at serves
  cases τ with
  | pairHold region p => cases region <;> simp [Tracker.gesture] at serves
  | tripleTap p => simp [Tracker.gesture] at serves
  | edgeDrag p =>
      rw [tracker_react] at complete
      obtain ⟨pointer, anchor, timer, rfl, still, long⟩ := holding_of_complete complete
      obtain ⟨press, rfl, held⟩ := told
      obtain ⟨at_edge, before, d, pressing, q, rest, place, now, after, split, long_press, arrival,
        down, holds⟩ := held.split
      have still_down : m.Keeps (Stimulus.LeavesDown press.pointer) :=
        Moment.keeps_of_heard heard still.none_lands still.down
      have still_held :
          m.Keeps (Holds (.ofConfig used) used.driftTolerance press.pointer anchor) :=
        Moment.keeps_of_heard heard still.none_lands still
      exact ⟨before, d, pressing, q, rest, press, place, now, anchor, timer.since, after, s, split,
        long_press, arrival, at_edge,
        List.forall_mem_append.2 ⟨down, List.forall_mem_singleton.2 still_down⟩,
        List.forall_mem_append.2 ⟨holds, List.forall_mem_singleton.2 still_held⟩, heard, long⟩

/-- A pointer pressed until a tick, dragged to the left edge and held there until another one. -/
theorem dragged_of_fires_left :
    let host : Host := .phone .singleFingerEdgeDragHold
    let dragged : List Moment :=
      [⟨host, .touch ⟨.down, 0, ⟨500, 500⟩, 0⟩⟩, ⟨host, .tick 500⟩,
        ⟨host, .touch ⟨.move, 0, ⟨5, 500⟩, 600⟩⟩]
    let r := (Recognizer.ofConfig (.forScreen .singleFingerEdgeDragHold 1080 1920)).run dragged
    r.Fires ⟨host, .tick 3100⟩ ∧
      ∃ before d pressing q rest press place now anchor arrived after s,
        dragged = before ++ d :: (pressing ++ q :: rest) ∧
          LongPress r.config press place now before d pressing q ∧
          Arrival press.pointer place now rest anchor arrived after ∧
          (Surface.ofConfig r.config).isAtEdge anchor = true ∧
          (∀ n ∈ rest ++ [⟨host, .tick 3100⟩], n.Keeps (Stimulus.LeavesDown press.pointer)) ∧
          (∀ n ∈ after ++ [⟨host, .tick 3100⟩],
            n.Keeps (Holds (.ofConfig r.config) r.config.driftTolerance press.pointer anchor)) ∧
          Moment.stimulus? ⟨host, .tick 3100⟩ = some s ∧
          r.config.hold.millis ≤ s.time - arrived :=
  ⟨by decide +kernel,
    dragged_of_fires (.forScreen .singleFingerEdgeDragHold 1080 1920)
      [⟨.phone .singleFingerEdgeDragHold, .touch ⟨.down, 0, ⟨500, 500⟩, 0⟩⟩,
        ⟨.phone .singleFingerEdgeDragHold, .tick 500⟩,
        ⟨.phone .singleFingerEdgeDragHold, .touch ⟨.move, 0, ⟨5, 500⟩, 600⟩⟩]
      ⟨.phone .singleFingerEdgeDragHold, .tick 3100⟩ (by decide +kernel) (by decide +kernel)⟩

end EdgeDrag
end ExitGesture
