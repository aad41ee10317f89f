import ExitGesture.Proofs.Bystander
import ExitGesture.Proofs.Drift
import ExitGesture.Proofs.Magnitude
import ExitGesture.Proofs.Tracker.Timer

/-!
# Delivered twice

A host may deliver a move or a tick twice.  The second delivery can meet another phase than the
first: the press has become long, the pointer has arrived at its edge, a pulse has been given, the
attempt has been given up or completed.  It is passed by all the same, because what the first one
changed is measured from its own place and time: nothing has strayed from there, and no time has
passed since.

That no time has passed does not help a hold or an interval that lasts no time at all, so both have
to count for a millisecond at least.

**Results.**
* `PairHold.absorbs`, `EdgeDrag.absorbs`, `TripleTap.absorbs`, `Tracker.absorbs`: what outlives a
  move or a tick passes its repetition by.
* `Recognizer.echo_of_redelivery`: the same for recognizers, with every end of an attempt.
-/

namespace ExitGesture

/-! ### What a repetition relies on -/

/-- A hold and an interval take some time, and no place strays from itself. -/
structure Config.Unhurried (c : Config) : Prop where
  hold : 1 ≤ c.hold.millis
  interval : 1 ≤ c.pulseInterval.millis
  near : ∀ a : Point, ¬ c.driftTolerance < a.distance a

/-- A place does not stray from itself: it is at no distance, or has none. -/
theorem Config.near_self {c : Config} (valid : c.validate = .ok ()) (a : Point) :
    ¬ c.driftTolerance < a.distance a := by
  rcases a.distance_self_cases with zero | nothing
  · have parts := fault?_eq_none_iff.1 (validate_eq_ok_iff.1 valid)
    have admitted : (c.driftTolerance.isFinite && 0 ≤ c.driftTolerance) = true :=
      parts.2.2 .driftTolerance
    rw [zero]
    exact Rounding.not_lt_of_le (of_decide_eq_true (Bool.and_eq_true_iff.1 admitted).2)
  · exact (Rounding.not_lt_iff (Recognizer.isNaN_driftTolerance valid)).2 (Or.inr nothing)

namespace HoldTimer

variable {c : Config}

/-- A hold that has just begun goes on. -/
theorem advance_start (unhurried : c.Unhurried) (now : Time) :
    (start now).advance c now = (start now, .proceed true) := by
  have short : ¬ c.hold.millis ≤ 0 := Nat.not_le.2 unhurried.hold
  have undue : ¬ c.pulseInterval.millis ≤ 0 := Nat.not_le.2 unhurried.interval
  simp only [advance, start, Nat.sub_self, short, undue, if_false]

/-- A second look at the clock finds no time passed. -/
theorem advance_again (unhurried : c.Unhurried) {timer : HoldTimer} {now : Time}
    (lasts : (timer.advance c now).2.lasts = true) :
    (timer.advance c now).1.advance c now = ((timer.advance c now).1, .proceed true) := by
  have undue : ¬ c.pulseInterval.millis ≤ 0 := Nat.not_le.2 unhurried.interval
  by_cases long : c.hold.millis ≤ now - timer.since
  · simp [advance, long, Verdict.lasts] at lasts
  · by_cases due : c.pulseInterval.millis ≤ now - timer.lastPulse
    · simp only [advance, long, due, Nat.sub_self, undue, if_true, if_false]
    · simp only [advance, long, due, if_false]

end HoldTimer

/-! ### Trackers -/

/-- What is perceived a second time changes nothing, and is answered as it was the first time. -/
def Absorbs {σ : Type} (react : σ → σ × Verdict) (p : σ) : Prop :=
  react (react p).1 = ((react p).1, .proceed (react p).2.consumes)

theorem absorbs_of_rests {σ : Type} {react : σ → σ × Verdict} {p : σ} {consumed : Bool}
    (rests : react p = (p, .proceed consumed)) : Absorbs react p := by
  rw [Absorbs, rests]
  exact rests

theorem Absorbs.map {σ τ : Type} {react : σ → σ × Verdict} {react' : τ → τ × Verdict} {f : σ → τ}
    (follows : ∀ p, react' (f p) = (react p).map f id) {p : σ} (absorbs : Absorbs react p) :
    Absorbs react' (f p) := by
  have again : react' (f (react p).1) = (f (react p).1, .proceed (react p).2.consumes) := by
    rw [follows, absorbs]
    rfl
  rw [Absorbs, follows]
  exact again

/-- A stimulus that looks at the clock of a hold looks at it again. -/
theorem absorbs_of_looks {σ : Type} {react : σ → σ × Verdict} {holding : HoldTimer → σ} {c : Config}
    {now : Time} (unhurried : c.Unhurried) (looks : ∀ timer, react (holding timer) =
      (holding (timer.advance c now).1, (timer.advance c now).2)) {timer : HoldTimer}
    (lasts : (react (holding timer)).2.lasts = true) : Absorbs react (holding timer) := by
  rw [looks] at lasts
  rw [Absorbs, looks, HoldTimer.consumes_advance, looks, HoldTimer.advance_again unhurried lasts]

section Phases

variable {v : View} {s : Stimulus}

/-- A first pointer is not changed by a move or a tick that lets it wait on. -/
theorem PairHold.waits_of_lasts (region : Region) {first : Contact}
    (steady : s.Steady fun _ => True)
    (lasts : (react region v (.awaitingSecond first) s).2.lasts = true) :
    react region v (.awaitingSecond first) s = (.awaitingSecond first, .proceed false) := by
  have reaction := reaction region v (.awaitingSecond first) s
  generalize react region v (.awaitingSecond first) s = o at reaction lasts ⊢
  cases reaction with
  | wait => rfl
  | again | pair => exact steady.elim
  | fail => cases lasts

theorem PairHold.absorbs (region : Region) {p : Phase} (unhurried : v.config.Unhurried)
    (steady : s.Steady fun _ => True) (lasts : (react region v p s).2.lasts = true) :
    Absorbs (react region v · s) p := by
  cases p with
  | idle =>
      obtain ⟨now, rfl⟩ | ⟨c, rfl, _⟩ := steady.tick_or_move
      · exact absorbs_of_rests rfl
      · exact absorbs_of_rests rfl
  | awaitingSecond first => exact absorbs_of_rests (waits_of_lasts region steady lasts)
  | holding first second timer =>
      by_cases looks : Consults v (.holding first second timer) s
      · have look (timer : HoldTimer) : react region v (.holding first second timer) s =
            (.holding first second (timer.advance v.config s.time).1,
              (timer.advance v.config s.time).2) :=
          react_of_consults looks
        exact absorbs_of_looks unhurried look lasts
      · rcases react_of_not_consults region looks with rests | ⟨why, abandoned⟩
        · exact absorbs_of_rests rests
        · simp [abandoned, Verdict.lasts] at lasts

/-- A drag that has just arrived where it was seen is found there again. -/
theorem EdgeDrag.react_arrived {pointer : PointerId} {place : Point}
    (unhurried : v.config.Unhurried)
    (found : s.Steady fun b => b.pointer = pointer ∧ b.position = place) :
    react v (arrive v pointer place s.time) s =
      (arrive v pointer place s.time, .proceed true) := by
  have sees {P : Contact → Prop} (at_place : ∀ t, P ⟨pointer, place, t⟩) : s.Steady P := by
    obtain ⟨now, rfl⟩ | ⟨b, rfl, rfl, rfl⟩ := found.tick_or_move
    · trivial
    · exact at_place b.time
  cases edge : v.surface.isAtEdge place with
  | true =>
      rw [arrive, if_pos edge, react_rests (sees fun _ => ⟨rfl, edge, unhurried.near place⟩),
        HoldTimer.advance_start unhurried]
  | false =>
      rw [arrive, if_neg (by simp [edge]), react_drags (sees fun _ => ⟨rfl, edge⟩)]

/-- A stimulus that ends the long press, or moves the pointer on its way, is passed by when it is
repeated. -/
theorem EdgeDrag.absorbs_of_arrives {p : Phase} {pointer : PointerId} {place : Point}
    (unhurried : v.config.Unhurried)
    (arrives : react v p s = (arrive v pointer place s.time, .proceed true))
    (found : s.Steady fun b => b.pointer = pointer ∧ b.position = place) :
    Absorbs (react v · s) p := by
  rw [Absorbs, arrives]
  exact react_arrived unhurried found

theorem EdgeDrag.absorbs_pressed {press : Contact} {last : Point} (unhurried : v.config.Unhurried)
    (own : s.Steady fun b => b.pointer = press.pointer)
    (lasts : (react v (.pressed press last) s).2.lasts = true) :
    Absorbs (react v · s) (.pressed press last) := by
  obtain ⟨now, rfl⟩ | ⟨c, rfl, same⟩ := own.tick_or_move
  · by_cases long : v.config.longPress.millis ≤ now - press.time
    · have found : (Stimulus.tick now).Finds press.pointer last last := rfl
      exact absorbs_of_arrives unhurried (react_found found long) trivial
    · exact absorbs_of_rests (react_waits long trivial)
  · have found (last : Point) : (Stimulus.motion .move c).Finds press.pointer last c.position :=
      ⟨same, rfl⟩
    by_cases long : v.config.longPress.millis ≤ c.time - press.time
    · exact absorbs_of_arrives unhurried (react_found (found last) long) (found last)
    · cases near : v.strays (press.drift c) with
      | true =>
          have short : pressedLong v press c.time = false := decide_eq_false long
          simp [react, step, follow, Phase.tracked?, same, short, near, Verdict.lasts] at lasts
      | false =>
          -- the press remembers where its pointer was seen, and sees it there again
          have seen : (Stimulus.motion .move c).place? press.pointer = some c.position :=
            if_pos same
          have waits (last : Point) : react v (.pressed press last) (.motion .move c) =
              (.pressed press c.position, .proceed false) := by
            rw [react_waits (s := .motion .move c) long ⟨same, View.not_strays_iff.1 near⟩, seen]
            rfl
          rw [Absorbs, waits]
          exact waits c.position

theorem EdgeDrag.absorbs {p : Phase} (unhurried : v.config.Unhurried)
    (steady : s.Steady fun _ => True) (lasts : (react v p s).2.lasts = true) :
    Absorbs (react v · s) p := by
  by_cases own : s.Steady fun b => p.tracked? = some b.pointer
  · cases p with
    | idle =>
        obtain ⟨now, rfl⟩ | ⟨c, rfl, untracked⟩ := own.tick_or_move
        · exact absorbs_of_rests rfl
        · cases untracked
    | pressed press last =>
        refine absorbs_pressed unhurried ?_ lasts
        obtain ⟨now, rfl⟩ | ⟨c, rfl, tracked⟩ := own.tick_or_move
        · trivial
        · exact (Option.some.inj tracked).symm
    | dragging pointer =>
        obtain ⟨now, rfl⟩ | ⟨c, rfl, tracked⟩ := own.tick_or_move
        · exact absorbs_of_rests rfl
        · have same : c.pointer = pointer := (Option.some.inj tracked).symm
          exact absorbs_of_arrives unhurried (react_follow same) ⟨same, rfl⟩
    | holding pointer anchor timer =>
        by_cases looks : Consults v (.holding pointer anchor timer) s
        · have look (timer : HoldTimer) : react v (.holding pointer anchor timer) s =
              (.holding pointer anchor (timer.advance v.config s.time).1,
                (timer.advance v.config s.time).2) :=
            react_rests looks
          exact absorbs_of_looks unhurried look lasts
        · rcases react_of_not_consults looks with rests | ⟨why, abandoned⟩
          · exact absorbs_of_rests rests
          · simp [abandoned, Verdict.lasts] at lasts
  · -- a move of another pointer
    obtain ⟨now, rfl⟩ | ⟨c, rfl, _⟩ := steady.tick_or_move
    · exact absurd trivial own
    · exact absorbs_of_rests (react_stranger (by decide) own)

theorem TripleTap.absorbs {p : Phase} (steady : s.Steady fun _ => True)
    (lasts : (react v p s).2.lasts = true) : Absorbs (react v · s) p := by
  have rests : react v p s = (p, .proceed false) := by
    have reaction := reaction v p s
    generalize react v p s = o at reaction lasts ⊢
    cases reaction with
    | rest | pause | press => rfl
    | first | again | next | lift => exact steady.elim
    | last | fail => cases lasts
  exact absorbs_of_rests rests

end Phases

/-- What outlives a move or a tick passes its repetition by. -/
theorem Tracker.absorbs {v : View} {s : Stimulus} {τ : Tracker} (unhurried : v.config.Unhurried)
    (steady : s.Steady fun _ => True) (lasts : (τ.react v s).2.lasts = true) :
    Absorbs (Tracker.react v · s) τ := by
  cases τ with
  | pairHold region p =>
      rw [PairHold.tracker_react] at lasts
      exact (PairHold.absorbs region unhurried steady lasts).map
        fun p => PairHold.tracker_react p s
  | edgeDrag p =>
      rw [EdgeDrag.tracker_react] at lasts
      exact (EdgeDrag.absorbs unhurried steady lasts).map fun p => EdgeDrag.tracker_react p s
  | tripleTap p =>
      rw [TripleTap.tracker_react] at lasts
      exact (TripleTap.absorbs steady lasts).map fun p => TripleTap.tracker_react p s

/-! ### Recognizers -/

/-- What comes of the same request once more: nothing changes and nothing is signalled.  The answer
is the same, but a trigger is not answered twice. -/
def Outcome.echo (o : Outcome Recognizer Bool) : Outcome Recognizer Bool :=
  .silent o.state (o.answer && !decide (Signal.triggered ∈ o.signals))

section Echo

variable {o : Outcome Recognizer Bool}

theorem Outcome.echo_of_fired (fired : Signal.triggered ∈ o.signals) :
    o.echo = .silent o.state false := by
  simp [echo, fired]

theorem Outcome.echo_of_silent (silent : Signal.triggered ∉ o.signals) :
    o.echo = .silent o.state o.answer := by
  simp [echo, silent]

end Echo

namespace Recognizer

variable {r : Recognizer} {h : Host} {s : Stimulus} {now : Time}

/-- A verdict to let the attempt go on, as it is, comes to nothing. -/
theorem advance_of_rests (r : Recognizer) (consumed : Bool) (now : Time) (ends : Bool) :
    r.advance (r.tracker, .proceed consumed) now ends = .silent r consumed := by
  simp [advance, settle, stage, stageLog, Outcome.silent, -answer_advance]

/-- After a move or a tick that is heard the recognizer is latched over a trigger, or what it
perceives again comes to nothing. -/
theorem advance_again (unhurried : r.config.Unhurried) (steady : s.Steady fun _ => True)
    (opened : r.latched = false) (h : Host) (now : Time) :
    let o := r.advance (r.tracker.react (r.view h) s) now false
    (Signal.triggered ∈ o.signals ∧ o.state.latched = true) ∨
      Signal.triggered ∉ o.signals ∧ o.state.latched = false ∧
        o.state.tracker.react (o.state.view h) s = (o.state.tracker, .proceed o.answer) := by
  intro o
  have fires : Signal.triggered ∈ o.signals ↔ (r.tracker.react (r.view h) s).2 = .complete :=
    triggered_mem_advance _ _ _ _
  rcases (r.tracker.react (r.view h) s).2.cases_lasts with lasts | complete | ⟨why, abandoned⟩
  · right
    have going : Signal.triggered ∉ o.signals := by
      intro fired
      simp [fires.1 fired, Verdict.lasts] at lasts
    have state := state_advance_of_lasts r _ now false lasts
    have absorbs := Tracker.absorbs (v := r.view h) unhurried steady lasts
    refine ⟨going, ?_, ?_⟩
    · simp only [o, state, opened]
    · simp only [o, state, answer_advance]
      exact absorbs
  · left
    refine ⟨fires.2 complete, ?_⟩
    simp only [o, state_advance_of_complete r _ now false complete]
    rfl
  · right
    have going : Signal.triggered ∉ o.signals := by
      intro fired
      simp [fires.1 fired] at abandoned
    have idle : o.state.stage = .idle := by
      rw [state_advance_of_abandon r _ now false abandoned]
      exact stage_abandon _ why
    refine ⟨going, ?_, ?_⟩
    · simp only [o, state_advance_of_abandon r _ now false abandoned, state_abandon, opened]
    · have answer : o.answer = false := by
        simp only [o, answer_advance, abandoned, Verdict.consumes]
      rw [answer]
      exact Tracker.react_of_idle idle steady.landsNone

/-- Neither a move nor a tick gets through a closed latch, or past exploration. -/
theorem touch_of_closed {t : Touch} (closed : r.latched = true ∨ h.exploring = true)
    (moves : t.kind = .move) : r.touch h t = .silent r false := by
  by_cases exploring : h.exploring = true
  · simp [touch_exploring exploring, pointersAfter, moves]
  · have latched : r.latched = true := closed.resolve_right exploring
    rw [touch, if_neg exploring, if_pos ⟨latched, by simp [moves]⟩]
    simp [pointersAfter, moves, Touch.Kind.endsStream, ← latched]

theorem tick_of_closed (closed : r.latched = true ∨ h.exploring = true) :
    r.tick h now = .silent r false := by
  rw [tick, if_pos closed]

/-- A move that is delivered twice. -/
theorem touch_again (unhurried : r.config.Unhurried) {t : Touch} (moves : t.kind = .move) :
    (r.touch h t).state.touch h t = (r.touch h t).echo := by
  by_cases closed : r.latched = true ∨ h.exploring = true
  · rw [touch_of_closed closed moves]
    exact touch_of_closed closed moves
  · have opened : r.latched = false ∧ h.exploring = false := by simpa using closed
    have steps {r : Recognizer} (free : r.latched = false) : r.touch h t =
        r.advance (r.tracker.react (r.view h) (.motion .move t.contact)) t.time false :=
      touch_move opened.2 free moves
    rw [steps opened.1]
    rcases advance_again (s := .motion .move t.contact) unhurried trivial opened.1 h t.time with
      ⟨fired, latched⟩ | ⟨silent, still_open, rests⟩
    · rw [touch_of_closed (Or.inl latched) moves, Outcome.echo_of_fired fired]
    · rw [steps still_open, rests, advance_of_rests, Outcome.echo_of_silent silent]

/-- A tick that is delivered twice. -/
theorem tick_again (unhurried : r.config.Unhurried) (now : Time) :
    (r.tick h now).state.tick h now = (r.tick h now).echo := by
  by_cases closed : r.latched = true ∨ h.exploring = true
  · rw [tick_of_closed closed]
    exact tick_of_closed closed
  · have opened : r.latched = false ∧ h.exploring = false := by simpa using closed
    have steps {r : Recognizer} (free : r.latched = false) : r.tick h now =
        (r.advance (r.tracker.react (r.view h) (.tick now)) now false).answering
          (decide ((r.tracker.react (r.view h) (.tick now)).2 = .complete)) := by
      have listens : ¬ (r.latched = true ∨ h.exploring = true) := by simp [free, opened.2]
      rw [tick, if_neg listens]
      rfl
    rw [steps opened.1]
    rcases advance_again (s := .tick now) unhurried trivial opened.1 h now with
      ⟨fired, latched⟩ | ⟨silent, still_open, rests⟩
    · refine Eq.trans ?_ (Outcome.echo_of_fired ?_).symm
      · exact tick_of_closed (Or.inl latched)
      · exact fired
    · have going : (r.tracker.react (r.view h) (.tick now)).2 ≠ .complete :=
        mt (triggered_mem_advance r _ now false).2 silent
      have again := steps still_open
      rw [rests, advance_of_rests] at again
      refine (again.trans ?_).trans (Outcome.echo_of_silent ?_).symm
      · simp [Outcome.answering, Outcome.silent, going]
      · exact silent

/-- A move or a tick that is delivered twice changes nothing and signals nothing the second time, in
any state of any run.  It is answered as the first time, unless the gesture was completed then.  The
hold and the interval between pulses have to take some time. -/
theorem echo_of_redelivery {c : Config} (valid : c.validate = .ok ()) (history : List Moment)
    (h : Host) (hold : 1 ≤ ((ofConfig c).run history).config.hold.millis)
    (interval : 1 ≤ ((ofConfig c).run history).config.pulseInterval.millis) :
    let r := (ofConfig c).run history
    (∀ t : Touch, t.kind = .move → (r.touch h t).state.touch h t = (r.touch h t).echo) ∧
      ∀ now, (r.tick h now).state.tick h now = (r.tick h now).echo := by
  intro r
  have valid : r.config.validate = .ok () := validate_run (r := ofConfig c) valid history
  have unhurried : r.config.Unhurried := ⟨hold, interval, Config.near_self valid⟩
  exact ⟨fun t moves => touch_again unhurried moves, tick_again unhurried⟩

/-- A drag has arrived at an edge.  The move that completes its hold is delivered twice, or a tick
that gives a pulse. -/
theorem echo_of_redelivery_edge :
    let host : Host := .phone .singleFingerEdgeDragHold
    let c : Config := .forScreen .singleFingerEdgeDragHold 1080 1920
    let history := host.touches [⟨.down, 0, ⟨540, 960⟩, 0⟩, ⟨.move, 0, ⟨2, 960⟩, 900⟩]
    let r := (ofConfig c).run history
    let t : Touch := ⟨.move, 0, ⟨3, 960⟩, 5000⟩
    c.validate = .ok () ∧ 1 ≤ r.config.hold.millis ∧ 1 ≤ r.config.pulseInterval.millis ∧
      Signal.triggered ∈ (r.touch host t).signals ∧
      (r.touch host t).state.touch host t = (r.touch host t).echo ∧
      Signal.pulse 500 ∈ (r.tick host 1400).signals ∧
      (r.tick host 1400).state.tick host 1400 = (r.tick host 1400).echo := by
  intro host c history r t
  have valid : c.validate = .ok () := by decide +kernel
  have hold : 1 ≤ r.config.hold.millis := by decide +kernel
  have interval : 1 ≤ r.config.pulseInterval.millis := by decide +kernel
  obtain ⟨touches, ticks⟩ := echo_of_redelivery valid history host hold interval
  exact ⟨valid, hold, interval, by decide +kernel, touches t rfl, by decide +kernel, ticks 1400⟩

/-- Without time between pulses, a tick that is delivered twice gives two. -/
example :
    let host : Host := .phone .oppositeCornersHold
    let c : Config :=
      { Config.forScreen .oppositeCornersHold 1080 1920 with pulseInterval := .ofMillis 0 }
    let r := (ofConfig c).run (host.touches
      [⟨.down, 0, ⟨10, 10⟩, 0⟩, ⟨.pointerDown, 1, ⟨1070, 1910⟩, 50⟩])
    c.validate = .ok () ∧ ((r.tick host 60).state.tick host 60).signals = [.pulse 10] := by
  decide +kernel

end Recognizer
end ExitGesture
