import ExitGesture.Proofs.Telling

/-!
# Pointers that are not part of the gesture

A pointer that is not tracked may move and lift beside an attempt.  Each tracker passes it by in its
own place: before it looks at the phase, in one phase, or only where it looks for an anchor.  The
last leaves a gap.  While a pair is held, a move of any other pointer is a look at the clock, so
that it can complete the hold or tell a pulse; otherwise nothing comes of it.

**Results.**
* `touch_stranger`, `touch_stranger_of_held`: what a recognizer makes of such a touch.
* `ignores_stranger_iff`: exactly when nothing comes of it, in every run.
-/

namespace ExitGesture

attribute [ext] Outcome

/-! ### Trackers -/

namespace PairHold

variable {region : Region} {v : View} {p : Phase} {c : Contact} {k : Touch.Motion}

/-- A move of a third pointer is a look at the clock. -/
theorem react_stranger_of_held (held : p.stage = .active) (stranger : c.pointer ∉ p.tracked) :
    react region v p (.motion .move c) = react region v p (.tick c.time) := by
  cases p with
  | idle => cases held
  | awaitingSecond first => cases held
  | holding first second timer =>
      simp only [Phase.tracked, List.mem_cons, List.not_mem_nil, or_false, not_or] at stranger
      have undisturbed : Undisturbed v.config.driftTolerance first second (.motion .move c) :=
        ⟨trivial, Stimulus.spares_move_iff.2 fun same => absurd same stranger.1,
          fun _ => Stimulus.spares_move_iff.2 fun same => absurd same stranger.2⟩
      exact react_of_consults ⟨trivial, undisturbed⟩

theorem react_stranger (region : Region) (other : k ≠ .land) (stranger : c.pointer ∉ p.tracked)
    (elsewhere : ¬ (k = .move ∧ p.stage = .active)) :
    ∃ consumed, react region v p (.motion k c) = (p, .proceed consumed) := by
  cases p with
  | idle =>
      cases k with
      | land => exact absurd rfl other
      | move => exact ⟨_, rfl⟩
      | lift => exact ⟨_, rfl⟩
  | awaitingSecond first =>
      have apart : c.pointer ≠ first.pointer := by simpa [Phase.tracked] using stranger
      cases k with
      | land => exact absurd rfl other
      | move => exact ⟨false, by simp [react, step, move, apart]⟩
      | lift => exact ⟨false, by simp [react, step, lift, apart]⟩
  | holding first second timer =>
      cases k with
      | land => exact absurd rfl other
      | move => exact absurd ⟨rfl, rfl⟩ elsewhere
      | lift =>
          have apart : ¬ (c.pointer = first.pointer ∨ c.pointer = second.pointer) := by
            simpa [Phase.tracked] using stranger
          exact ⟨true, by simp [react, step, lift, apart]⟩

end PairHold

theorem TripleTap.react_stranger {v : View} {p : Phase} {c : Contact} {k : Touch.Motion}
    (other : k ≠ .land) (stranger : p.tracked? ≠ some c.pointer) :
    react v p (.motion k c) = (p, .proceed false) := by
  cases p with
  | idle =>
      cases k with
      | land => exact absurd rfl other
      | move => rfl
      | lift => rfl
  | tapping anchor lastDown completed pressed =>
      cases pressed with
      | none =>
          cases k with
          | land => exact absurd rfl other
          | move => rfl
          | lift => rfl
      | some press =>
          have apart : press.pointer ≠ c.pointer := by simpa [Phase.tracked?] using stranger
          cases k with
          | land => exact absurd rfl other
          | move => simp [react, step, apart]
          | lift => simp [react, step, apart]

namespace Tracker

variable {v : View} {τ : Tracker} {c : Contact} {k : Touch.Motion}

/-- The tracker holds a pair. -/
def HoldsPair (τ : Tracker) : Prop := τ.gesture.pairsPointers = true ∧ τ.stage = .active

theorem react_stranger_of_held (held : τ.HoldsPair) (stranger : c.pointer ∉ τ.tracked) :
    τ.react v (.motion .move c) = τ.react v (.tick c.time) := by
  obtain ⟨pairs, active⟩ := held
  cases τ with
  | pairHold region p =>
      rw [PairHold.tracker_react, PairHold.tracker_react,
        PairHold.react_stranger_of_held active stranger]
  | edgeDrag p => cases pairs
  | tripleTap p => cases pairs

theorem react_stranger (other : k ≠ .land) (stranger : c.pointer ∉ τ.tracked)
    (elsewhere : ¬ (k = .move ∧ τ.HoldsPair)) :
    ∃ consumed, τ.react v (.motion k c) = (τ, .proceed consumed) := by
  cases τ with
  | pairHold region p =>
      have elsewhere' : ¬ (k = .move ∧ p.stage = .active) := by
        rintro ⟨moves, active⟩
        exact elsewhere ⟨moves, by cases region <;> rfl, active⟩
      obtain ⟨consumed, eq⟩ := PairHold.react_stranger region (v := v) other stranger
        elsewhere'
      exact ⟨consumed, PairHold.tracker_react_eq eq⟩
  | edgeDrag p =>
      have apart : p.tracked? ≠ some c.pointer := fun same => stranger (by simp [tracked, same])
      exact ⟨_, EdgeDrag.tracker_react_eq (EdgeDrag.react_stranger other apart)⟩
  | tripleTap p =>
      have apart : p.tracked? ≠ some c.pointer := fun same => stranger (by simp [tracked, same])
      exact ⟨_, TripleTap.tracker_react_eq (TripleTap.react_stranger other apart)⟩

theorem HoldsPair.consumes_tick (held : τ.HoldsPair) (v : View) (now : Time) :
    (τ.tick v now).2.consumes = true := by
  obtain ⟨pairs, active⟩ := held
  cases τ with
  | edgeDrag p => cases pairs
  | tripleTap p => cases pairs
  | pairHold region p =>
      cases p with
      | idle => cases active
      | awaitingSecond first => cases active
      | holding first second timer => exact HoldTimer.consumes_advance timer v.config now

/-- A tick that a held pair has nothing to tell of leaves it as it is. -/
theorem tick_of_untold (held : τ.HoldsPair) {now : Time}
    (untold : (τ.react v (.tick now)).2.tells = []) :
    τ.react v (.tick now) = (τ, .proceed true) := by
  obtain ⟨pairs, active⟩ := held
  cases τ with
  | edgeDrag p => cases pairs
  | tripleTap p => cases pairs
  | pairHold region p =>
      cases p with
      | idle => cases active
      | awaitingSecond first => cases active
      | holding first second timer =>
          have silent : (timer.advance v.config now).2.tells = [] := untold
          have stays : timer.advance v.config now = (timer, .proceed true) := by
            by_cases long : v.config.hold.millis ≤ now - timer.since
            · simp [HoldTimer.advance, long, Verdict.tells] at silent
            · by_cases due : v.config.pulseInterval.millis ≤ now - timer.lastPulse
              · simp [HoldTimer.advance, long, due, Verdict.tells] at silent
              · simp [HoldTimer.advance, long, due]
          simp [react, tick, PairHold.tick, stays]

end Tracker

/-! ### Recognizers -/

namespace Recognizer

variable {r : Recognizer} {h : Host} {t : Touch}

/-- A touch of a pointer that is not tracked, and neither lands nor ends the stream. -/
structure Stranger (r : Recognizer) (t : Touch) : Prop where
  kind : t.kind = .move ∨ t.kind = .pointerUp
  apart : t.pointer ∉ r.tracked

/-- Nothing comes of a touch: the attempt and the record stay as they are, and the listener is told
nothing. -/
structure Ignores (r : Recognizer) (h : Host) (t : Touch) : Prop where
  stage : (r.touch h t).state.stage = r.stage
  awaiting : (r.touch h t).state.awaiting = r.awaiting
  tracked : (r.touch h t).state.tracked = r.tracked
  lastAbandon : (r.touch h t).state.lastAbandon = r.lastAbandon
  triggers : (r.touch h t).state.triggers = r.triggers
  untold : told (r.touch h t).signals = []

/-- A touch is a move beside a pair that is held. -/
def BesidePair (r : Recognizer) (t : Touch) : Prop :=
  t.kind = .move ∧ r.config.gesture.pairsPointers = true ∧ r.stage = .active

theorem Ignores.of_frame
    (frame : (r.touch h t).state = { r with onSurface := pointersAfter r.onSurface t })
    (silent : (r.touch h t).signals = []) : r.Ignores h t := by
  constructor <;> simp [frame, silent, Recognizer.stage, Recognizer.awaiting, Recognizer.tracked]

/-- A stranger is passed by, and only counted. -/
theorem touch_stranger (wf : r.WellFormed) (stranger : r.Stranger t)
    (elsewhere : ¬ r.BesidePair t) :
    (r.touch h t).state = { r with onSurface := pointersAfter r.onSurface t } ∧
      (r.touch h t).signals = [] := by
  obtain ⟨kind, apart⟩ := stranger
  have not_down : t.kind ≠ .down := by rcases kind with kind | kind <;> simp [kind]
  have goes_on : t.kind.endsStream = false := by
    rcases kind with kind | kind <;> simp [kind, Touch.Kind.endsStream]
  have course := touch_course r h t
  generalize r.touch h t = o at course ⊢
  cases course with
  | explored => exact ⟨rfl, rfl⟩
  | heldBack _ latched => simp [Outcome.silent, counted, goes_on, latched]
  | cancelled _ _ cancels => simp [cancels] at kind
  | crowded _ _ lands => rcases kind with kind | kind <;> simp [kind, Touch.Kind.motion?] at lands
  | @seen _ k step _ opened motion _ stepped _ state signals =>
      have open_latch : r.latched = false := by simpa [not_down] using opened
      have moves : k = .move → t.kind = .move := by
        rintro rfl
        rcases kind with kind | kind
        · exact kind
        · simp [kind, Touch.Kind.motion?] at motion
      have other : k ≠ .land := by
        rintro rfl
        rcases kind with kind | kind <;> simp [kind, Touch.Kind.motion?] at motion
      have elsewhere' : ¬ (k = .move ∧ r.tracker.HoldsPair) := by
        rintro ⟨move, pairs, active⟩
        exact elsewhere ⟨moves move, wf.gesture ▸ pairs, active⟩
      obtain ⟨consumed, passes⟩ :=
        Tracker.react_stranger (v := r.view h) (c := t.contact) other apart elsewhere'
      rw [readied_of_not_down not_down] at stepped state signals
      have step_eq : step = (r.tracker, .proceed consumed) := stepped.trans passes
      rw [step_eq] at state signals
      rw [state, signals, opening, if_neg (fun both => not_down both.1)]
      simp [advance, settle, Outcome.silent, stageLog, counted, open_latch, stage]

/-- Beside a pair that is held, the move of a stranger is a tick. -/
theorem touch_stranger_of_held (wf : r.WellFormed) (listening : h.exploring = false)
    (apart : t.pointer ∉ r.tracked) (beside : r.BesidePair t) :
    r.touch h t = (r.tick h t.time).answering true := by
  obtain ⟨moves, pairs, active⟩ := beside
  have held : r.tracker.HoldsPair := ⟨wf.gesture.symm ▸ pairs, active⟩
  have open_latch : r.latched = false := wf.opened (by simp [active])
  have ticks : r.tracker.step (r.view h) .move t.contact = r.tracker.tick (r.view h) t.time :=
    Tracker.react_stranger_of_held (v := r.view h) held apart
  rw [touch_move listening open_latch moves, ticks]
  rcases tick_cases r h t.time with ⟨latched | exploring, _⟩ | ⟨_, _, eq⟩
  · simp [open_latch] at latched
  · simp [listening] at exploring
  · rw [eq]
    refine Outcome.ext ?_ rfl rfl
    rw [answer_advance]
    exact held.consumes_tick (r.view h) t.time

/-- A tick that tells nothing of a held pair changes nothing. -/
theorem tick_of_untold (held : r.tracker.HoldsPair) {now : Time}
    (untold : told (r.tick h now).signals = []) : r.tick h now = .silent r false := by
  rcases tick_cases r h now with ⟨_, eq⟩ | ⟨_, _, eq⟩
  · exact eq
  · have silent : (r.tracker.tick (r.view h) now).2.tells = [] := by
      simpa [eq, Outcome.answering] using untold
    have stays : r.tracker.tick (r.view h) now = (r.tracker, .proceed true) :=
      Tracker.tick_of_untold held silent
    rw [eq, stays]
    simp [advance, settle, Outcome.silent, Outcome.answering, stageLog]

/-- What comes of a touch of a pointer that is not part of the gesture.  Nothing does, and the touch
changes nothing but the pointers that are down, unless it is a move beside a pair that is held.
Such a move is a tick, and something comes of it exactly if the tick has something to tell. -/
theorem ignores_stranger_iff (c : Config) (history : List Moment) {h : Host} {t : Touch}
    (listening : h.exploring = false) (stranger : ((ofConfig c).run history).Stranger t) :
    let r := (ofConfig c).run history
    (r.Ignores h t ↔ ¬ (r.BesidePair t ∧ told (r.tick h t.time).signals ≠ [])) ∧
      (r.Ignores h t → (r.touch h t).state = { r with onSurface := pointersAfter r.onSurface t } ∧
        (r.touch h t).signals = []) ∧
      (r.BesidePair t → r.touch h t = (r.tick h t.time).answering true) := by
  intro r
  have wf : r.WellFormed := (WellFormed.ofConfig c).run history
  have ticks := touch_stranger_of_held (t := t) wf listening stranger.apart
  have frame (quiet : ¬ (r.BesidePair t ∧ told (r.tick h t.time).signals ≠ [])) :
      (r.touch h t).state = { r with onSurface := pointersAfter r.onSurface t } ∧
        (r.touch h t).signals = [] := by
    by_cases beside : r.BesidePair t
    · have untold : told (r.tick h t.time).signals = [] := by simpa [beside] using quiet
      have held : r.tracker.HoldsPair := ⟨wf.gesture.symm ▸ beside.2.1, beside.2.2⟩
      rw [ticks beside, tick_of_untold held untold]
      simp [Outcome.silent, Outcome.answering, pointersAfter, beside.1]
    · exact touch_stranger wf stranger beside
  have quiet (ignores : r.Ignores h t) :
      ¬ (r.BesidePair t ∧ told (r.tick h t.time).signals ≠ []) := by
    rintro ⟨beside, tells⟩
    have untold := ignores.untold
    rw [ticks beside] at untold
    exact tells untold
  exact ⟨⟨quiet, fun still => .of_frame (frame still).1 (frame still).2⟩,
    fun ignores => frame (quiet ignores), ticks⟩

/-- Beside a pair that is held another pointer moves.  Before the first pulse is due nothing comes
of it, and a lift of a pointer that is down unheard is passed by as well. -/
theorem ignores_stranger_iff_corners :
    let host : Host := .phone .oppositeCornersHold
    let exploring : Host := { host with exploring := true }
    let c : Config := .forScreen .oppositeCornersHold 1080 1920
    let history := host.touches
        [⟨.down, 0, ⟨10, 10⟩, 0⟩, ⟨.pointerDown, 1, ⟨1070, 1910⟩, 50⟩] ++
      exploring.touches [⟨.pointerDown, 2, ⟨540, 960⟩, 100⟩]
    let r := (ofConfig c).run history
    let move (now : Time) : Touch := ⟨.move, 2, ⟨540, 960⟩, now⟩
    let lift : Touch := ⟨.pointerUp, 2, ⟨540, 960⟩, 3000⟩
    (r.Stranger (move 500) ∧ r.Stranger (move 2550) ∧ r.Stranger lift) ∧
      r.Ignores host (move 500) ∧ ¬ r.Ignores host (move 2550) ∧ r.Ignores host lift ∧
      (r.touch host lift).state = { r with onSurface := [1, 0] } := by
  intro host exploring c history r move lift
  have tracked : r.tracked = [0, 1] := by decide +kernel
  have apart (t : Touch) (third : t.pointer = 2) : t.pointer ∉ r.tracked := by
    simp [tracked, third]
  have moves (now : Time) : r.Stranger (move now) := ⟨Or.inl rfl, apart _ rfl⟩
  have lifts : r.Stranger lift := ⟨Or.inr rfl, apart _ rfl⟩
  have early := (ignores_stranger_iff c history (h := host) rfl (moves 500)).1
  have due := (ignores_stranger_iff c history (h := host) rfl (moves 2550)).1
  have lifted := ignores_stranger_iff c history (h := host) rfl lifts
  have silent : told (r.tick host 500).signals = [] := by decide +kernel
  have tells : told (r.tick host 2550).signals ≠ [] := by decide +kernel
  have passes : r.Ignores host lift := lifted.1.2 fun both => by simp [BesidePair, lift] at both
  refine ⟨⟨moves 500, moves 2550, lifts⟩, early.2 fun both => both.2 silent, ?_, passes, ?_⟩
  · refine fun ignores => due.1 ignores ⟨⟨rfl, ?_, ?_⟩, tells⟩
    · decide +kernel
    · decide +kernel
  · exact (lifted.2.1 passes).1.trans (by decide +kernel)

/-- A pair that is held fires by the move of a pointer that is not tracked. -/
theorem stranger_fires :
    let host : Host := .phone .oppositeCornersHold
    let c : Config := .forScreen .oppositeCornersHold 1080 1920
    let r := (ofConfig c).run (host.touches
      [⟨.down, 0, ⟨10, 10⟩, 0⟩, ⟨.pointerDown, 1, ⟨1070, 1910⟩, 50⟩])
    let move : Touch := ⟨.move, 7, ⟨540, 960⟩, 2550⟩
    c.validate = .ok () ∧ host.exploring = false ∧ move.pointer ∉ r.tracked ∧
      Signal.triggered ∈ (r.touch host move).signals ∧ r.triggers = 0 ∧
      (r.touch host move).state.triggers = 1 ∧ r.stage = .active ∧
      (r.touch host move).state.stage = .idle := by
  decide +kernel

end Recognizer
end ExitGesture
