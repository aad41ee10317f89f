import ExitGesture.Proofs.Completeness.Basic

/-!
# A drag that is held at an edge fires

Whatever was before, a pointer that is pressed in place until the long press is over, and then comes
to an edge, is held there, and the hold completes unless the pointer leaves the edge or strays.

**On the way.**  An approach is a list of moments in which the pointer has not come to an edge, each
of which `Approaches` allows by whether the long press is over.
-/

namespace ExitGesture
namespace EdgeDrag

/-- Where a pointer was seen last since its press. -/
def lastSeen (press : Contact) (ms : List Moment) : Point :=
  (lastPlace? press.pointer ms).getD press.position

/-- A moment finds the pressed pointer at a place when the long press is over. -/
structure EndsPress (c : Config) (press : Contact) (ms : List Moment) (q : Moment) (place : Point)
    (now : Time) : Prop where
  found : ∃ s, q.stimulus? = some s ∧ s.time = now ∧ s.Finds press.pointer (lastSeen press ms) place
  long : c.longPress.millis ≤ now - press.time

/-- One moment more on the way to an edge.  The flags say whether the long press is over. -/
inductive Approaches (c : Config) (press : Contact) (ms : List Moment) : Bool → Moment → Bool → Prop
  | waits {m : Moment} (early : ¬ m.Due press.time c.longPress.millis)
      (near : m.Steady fun b =>
        b.pointer = press.pointer ∧ ¬ c.driftTolerance < press.drift b) :
      Approaches c press ms false m false
  | engages {m : Moment} {place : Point} {now : Time} (ends : EndsPress c press ms m place now)
      (off : (Surface.ofConfig c).isAtEdge place = false) :
      Approaches c press ms false m true
  | drags {m : Moment}
      (off : m.Steady fun b =>
        b.pointer = press.pointer ∧ (Surface.ofConfig c).isAtEdge b.position = false) :
      Approaches c press ms true m true

/-- The moments after a press in which the pointer has not come to an edge. -/
inductive Approach (c : Config) (press : Contact) : List Moment → Bool → Prop
  | landed : Approach c press [] false
  | concat {ms : List Moment} {m : Moment} {before after : Bool}
      (so_far : Approach c press ms before) (next : Approaches c press ms before m after) :
      Approach c press (ms ++ [m]) after

/-- The moment at which the pointer comes to an edge: the end of its long press finds it there, or
it moves there later. -/
inductive Reaches (c : Config) (press : Contact) (ms : List Moment) :
    Bool → Moment → Point → Time → Prop
  | at_once {m : Moment} {anchor : Point} {arrived : Time}
      (ends : EndsPress c press ms m anchor arrived)
      (edge : (Surface.ofConfig c).isAtEdge anchor = true) :
      Reaches c press ms false m anchor arrived
  | by_move {m : Moment} {anchor : Point} {arrived : Time}
      (moves : m.stimulus? = some (.motion .move ⟨press.pointer, anchor, arrived⟩))
      (edge : (Surface.ofConfig c).isAtEdge anchor = true) :
      Reaches c press ms true m anchor arrived

/-- A pointer is at an edge, and has not moved far from its anchor. -/
def Rests (c : Config) (pointer : PointerId) (anchor : Point) (b : Contact) : Prop :=
  b.pointer = pointer ∧ (Surface.ofConfig c).isAtEdge b.position = true ∧
    ¬ c.driftTolerance < anchor.distance b.position

instance (c : Config) (pointer : PointerId) (anchor : Point) :
    DecidablePred (Rests c pointer anchor) := fun _ => inferInstanceAs (Decidable (_ ∧ _ ∧ _))

/-- The phase in which an approach leaves the attempt. -/
def approaching (press : Contact) (ms : List Moment) : Bool → Phase
  | false => .pressed press (lastSeen press ms)
  | true => .dragging press.pointer

theorem steadyHold (c : Config) (pointer : PointerId) (anchor : Point) :
    SteadyHold c (Rests c pointer anchor)
      (fun timer => .edgeDrag (.holding pointer anchor timer)) where
  active _ := rfl
  reacts h _ _ rests := tracker_react_eq (react_rests (v := h.view c) rests)

/-! ### The approach -/

section Follow

variable {c : Config} {press : Contact} {ms : List Moment} {m : Moment} {before after : Bool}

theorem lastSeen_concat {s : Stimulus} (heard : m.stimulus? = some s) :
    lastSeen press (ms ++ [m]) = (s.place? press.pointer).getD (lastSeen press ms) := by
  rw [lastSeen, lastPlace?_concat, heard]
  cases place : s.place? press.pointer <;> simp [place, lastSeen]

/-- What ends a press is a tick or a move of the pointer. -/
theorem EndsPress.steady {place : Point} {now : Time} (ends : EndsPress c press ms m place now) :
    m.Steady fun b => b.pointer = press.pointer := by
  obtain ⟨s, heard, _, found⟩ := ends.found
  exact ⟨s, heard, found.steady⟩

theorem EndsPress.due {place : Point} {now : Time} (ends : EndsPress c press ms m place now) :
    m.Due press.time c.longPress.millis := by
  obtain ⟨s, heard, rfl, _⟩ := ends.found
  exact ⟨s, heard, ends.long⟩

/-- One moment on the way. -/
theorem Approaches.perceive {r : Recognizer} (next : Approaches c press ms before m after)
    (pursues : r.Pursues c (.edgeDrag (approaching press ms before))) :
    ¬ r.Fires m ∧ (r.after m).Pursues c (.edgeDrag (approaching press (ms ++ [m]) after)) ∧
      ∀ t, m.request = .touch t → (r.serve m).answer = .consumed after := by
  cases next with
  | waits early near =>
      obtain ⟨s, heard, near_s⟩ := id near
      have short : ¬ c.longPress.millis ≤ s.time - press.time := fun long =>
        early ((Moment.due_iff_of_heard heard).2 long)
      have reacts : react (m.host.view c) (approaching press ms false) s =
          (approaching press (ms ++ [m]) false, .proceed false) := by
        rw [approaching, approaching, lastSeen_concat heard]
        exact react_waits (v := m.host.view c) short near_s
      exact pursues.proceed heard (near.joins r) (tracker_react_eq reacts)
  | engages ends off =>
      obtain ⟨s, heard, rfl, found⟩ := ends.found
      have dragging : arrive (m.host.view c) press.pointer _ s.time = .dragging press.pointer :=
        if_neg (by simpa [Host.view] using off)
      have reacts := react_found (v := m.host.view c) found ends.long
      rw [dragging] at reacts
      exact pursues.proceed heard (ends.steady.joins r) (tracker_react_eq reacts)
  | drags off =>
      obtain ⟨s, heard, off_s⟩ := id off
      have reacts := react_drags (v := m.host.view c) off_s
      exact pursues.proceed heard (off.joins r) (tracker_react_eq reacts)

/-- The moment that comes to the edge. -/
theorem Reaches.perceive {r : Recognizer} {long : Bool} {anchor : Point} {arrived : Time}
    (reaches : Reaches c press ms long m anchor arrived)
    (pursues : r.Pursues c (.edgeDrag (approaching press ms long))) :
    ¬ r.Fires m ∧
      (r.after m).Holds c (fun timer => .edgeDrag (.holding press.pointer anchor timer)) arrived ∧
      ∀ t, m.request = .touch t → (r.serve m).answer = .consumed true := by
  have holding (now : Time) (edge : (Surface.ofConfig c).isAtEdge anchor = true) :
      arrive (m.host.view c) press.pointer anchor now =
        .holding press.pointer anchor (.start now) := if_pos edge
  cases reaches with
  | at_once ends edge =>
      obtain ⟨s, heard, rfl, found⟩ := ends.found
      have reacts := react_found (v := m.host.view c) found ends.long
      rw [holding _ edge] at reacts
      obtain ⟨rests, goes_on, answer⟩ :=
        pursues.proceed heard (ends.steady.joins r) (tracker_react_eq reacts)
      exact ⟨rests, ⟨_, rfl, goes_on⟩, answer⟩
  | by_move moves edge =>
      have steady : m.Steady fun b => b.pointer = press.pointer := ⟨_, moves, rfl⟩
      have same : (⟨press.pointer, anchor, arrived⟩ : Contact).pointer = press.pointer := rfl
      have reacts := react_follow (v := m.host.view c) same
      rw [holding arrived edge] at reacts
      obtain ⟨rests, goes_on, answer⟩ :=
        pursues.proceed moves (steady.joins r) (tracker_react_eq reacts)
      exact ⟨rests, ⟨_, rfl, goes_on⟩, answer⟩

/-- Along an approach the attempt waits for the long press or for the edge. -/
theorem Approach.run {pressed : Recognizer} {long : Bool} (approach : Approach c press ms long)
    (pursues : pressed.Pursues c (.edgeDrag (.pressed press press.position))) :
    (pressed.run ms).Pursues c (.edgeDrag (approaching press ms long)) := by
  induction approach with
  | landed => exact pursues
  | concat so_far next ih =>
      rw [Recognizer.run_concat]
      exact (next.perceive ih).2.1

/-- What is left of an approach when its last moment is taken away. -/
theorem approach_concat_iff :
    Approach c press (ms ++ [m]) after ↔
      ∃ before, Approach c press ms before ∧ Approaches c press ms before m after := by
  constructor
  · intro approach
    generalize whole : ms ++ [m] = ns at approach
    cases approach with
    | landed => simp at whole
    | concat so_far next =>
        obtain ⟨rfl, same⟩ := List.append_inj' whole rfl
        obtain rfl := List.singleton_inj.1 same
        exact ⟨_, so_far, next⟩
  · rintro ⟨before, so_far, next⟩
    exact .concat so_far next

theorem Approach.of_isPrefix {part : List Moment} {long : Bool}
    (approach : Approach c press ms long) (within : part <+: ms) :
    ∃ long', Approach c press part long' := by
  induction approach with
  | landed =>
      rw [List.prefix_nil.1 within]
      exact ⟨false, .landed⟩
  | concat so_far next ih =>
      rcases List.prefix_concat_iff.1 within with rfl | within
      · exact ⟨_, .concat so_far next⟩
      · exact ih within

/-- The long press is over from the first moment on that finds it over. -/
theorem Approach.long_iff {long : Bool} (approach : Approach c press ms long) :
    long = true ↔ ∃ n ∈ ms, n.Due press.time c.longPress.millis := by
  induction approach with
  | landed => simp
  | concat so_far next ih =>
      simp only [List.mem_append, List.mem_singleton, or_and_right, exists_or, exists_eq_left, ← ih]
      cases next with
      | waits early near => simp [early]
      | engages ends off => simp [ends.due]
      | drags off => simp

end Follow

/-- Whatever was before, a pointer that is pressed in place for long, comes to an edge and is held
there fires by the first moment at which the hold has lasted long enough, and only by it.  Until it
comes to the edge the attempt is pending, and its moves are consumed once the long press is over. -/
theorem fires_once_of_dragged (c : Config) (history : List Moment) {h : Host} {press : Contact}
    {ms : List Moment} {long : Bool}
    (drags : ((Recognizer.ofConfig c).run history).config.gesture = .singleFingerEdgeDragHold)
    (listening : h.exploring = false)
    (approach : Approach ((Recognizer.ofConfig c).run history).config press ms long) :
    let r := (Recognizer.ofConfig c).run history
    let pressed := r.after ⟨h, .touch ⟨.down, press⟩⟩
    (∀ part, part <+: ms → (pressed.run part).stage = .pending) ∧
      (∀ part m, part ++ [m] <+: ms → ¬ (pressed.run part).Fires m ∧
        ∀ t, m.request = .touch t → (((pressed.run part).serve m).answer = .consumed true ↔
          ∃ n ∈ part ++ [m], n.Due press.time r.config.longPress.millis)) ∧
      ∀ m anchor arrived, Reaches r.config press ms long m anchor arrived →
        ¬ (pressed.run ms).Fires m ∧
          (∀ t, m.request = .touch t → ((pressed.run ms).serve m).answer = .consumed true) ∧
          ∀ held, (∀ n ∈ held, n.Steady (Rests r.config press.pointer anchor)) →
            (pressed.run (ms ++ [m])).CompletesOnce arrived r.config.hold.millis held := by
  intro r pressed
  have wf : r.WellFormed := (Recognizer.WellFormed.ofConfig c).run history
  have pursues : pressed.Pursues r.config (.edgeDrag (.pressed press press.position)) := by
    have landed := (Recognizer.pursues_landed (t := ⟨.down, press⟩) wf (by simp [r, drags])
      listening rfl).2
    rw [show r.config.gesture = .singleFingerEdgeDragHold from drags] at landed
    exact landed
  refine ⟨?_, ?_, ?_⟩
  · intro part within
    obtain ⟨long', approach⟩ := approach.of_isPrefix within
    have tracker := (approach.run pursues).tracker
    rw [Recognizer.stage, tracker]
    cases long' <;> rfl
  · intro part m within
    obtain ⟨long', approach⟩ := approach.of_isPrefix within
    obtain ⟨before, so_far, next⟩ := approach_concat_iff.1 approach
    obtain ⟨rests, _, answer⟩ := next.perceive (so_far.run pursues)
    refine ⟨rests, fun t asked => ?_⟩
    rw [answer t asked, ← approach.long_iff, Session.Reply.consumed.injEq]
  · intro m anchor arrived reaches
    obtain ⟨rests, holds, answer⟩ := reaches.perceive (approach.run pursues)
    refine ⟨rests, answer, fun held steady => ?_⟩
    rw [Recognizer.run_concat]
    exact holds.completesOnce (steadyHold _ _ _) steady

/-- Two pointers were down, and nobody heard of their end.  The next one is pressed until a tick,
dragged to the left edge, and held there until another one. -/
theorem fires_once_of_dragged_left :
    let host : Host := .phone .singleFingerEdgeDragHold
    let history := host.touches
      [⟨.down, 0, ⟨500, 500⟩, 0⟩, ⟨.pointerDown, 1, ⟨600, 600⟩, 50⟩]
    let press : Contact := ⟨7, ⟨500, 500⟩, 3000⟩
    let near : Moment := ⟨host, .touch ⟨.move, 7, ⟨502, 500⟩, 3100⟩⟩
    let off : Moment := ⟨host, .touch ⟨.move, 7, ⟨100, 500⟩, 3600⟩⟩
    let ms := [near, ⟨host, .tick 3500⟩, off]
    let arrives : Moment := ⟨host, .touch ⟨.move, 7, ⟨5, 500⟩, 3700⟩⟩
    let held : List Moment :=
      [⟨host, .touch ⟨.move, 7, ⟨6, 501⟩, 5000⟩⟩, ⟨host, .tick 6200⟩]
    let r := (Recognizer.ofConfig (.forScreen .singleFingerEdgeDragHold 1080 1920)).run history
    let pressed := r.after ⟨host, .touch ⟨.down, press⟩⟩
    r.onSurface.length = 2 ∧ r.config.gesture = .singleFingerEdgeDragHold ∧
      Approach r.config press ms true ∧ Reaches r.config press ms true arrives ⟨5, 500⟩ 3700 ∧
      (∀ n ∈ held, n.Steady (Rests r.config press.pointer ⟨5, 500⟩)) ∧
      (pressed.run ms).stage = .pending ∧
      ((pressed.run ms).serve arrives).answer = .consumed true ∧
      (pressed.run (ms ++ [arrives])).CompletesOnce 3700 r.config.hold.millis held := by
  intro host history press near off ms arrives held r pressed
  have drags : r.config.gesture = .singleFingerEdgeDragHold := by decide +kernel
  have waits : Approaches r.config press [] false near false :=
    .waits (by decide +kernel) (by decide +kernel)
  have seen : lastSeen press [near] = ⟨502, 500⟩ := by decide +kernel
  have ends : EndsPress r.config press [near] ⟨host, .tick 3500⟩ ⟨502, 500⟩ 3500 :=
    ⟨⟨.tick 3500, rfl, rfl, seen⟩, by decide +kernel⟩
  have engages : Approaches r.config press [near] false ⟨host, .tick 3500⟩ true :=
    .engages ends (by decide +kernel)
  have moves_on : Approaches r.config press [near, ⟨host, .tick 3500⟩] true off true :=
    .drags (by decide +kernel)
  have approach : Approach r.config press ms true :=
    approach_concat_iff.2 ⟨true, approach_concat_iff.2 ⟨false, approach_concat_iff.2
      ⟨false, .landed, waits⟩, engages⟩, moves_on⟩
  have reaches : Reaches r.config press ms true arrives ⟨5, 500⟩ 3700 :=
    .by_move rfl (by decide +kernel)
  have steady : ∀ n ∈ held, n.Steady (Rests r.config press.pointer ⟨5, 500⟩) := by decide +kernel
  obtain ⟨pending, _, arrival⟩ :=
    fires_once_of_dragged (.forScreen .singleFingerEdgeDragHold 1080 1920) history drags
      (h := host) rfl approach
  obtain ⟨_, answer, completes⟩ := arrival arrives ⟨5, 500⟩ 3700 reaches
  exact ⟨by decide +kernel, drags, approach, reaches, steady, pending ms (List.prefix_refl ms),
    answer _ rfl, completes held steady⟩

end EdgeDrag
end ExitGesture
