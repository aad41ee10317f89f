import ExitGesture.Proofs.Tracker.Basic

/-!
# What reaches the timer of a hold

The timer lies inside the phase of a hold, and each gesture hands it on in its own way.  Seen from
outside there are two kinds of stimuli: those that look at its clock, and those that leave it alone.
-/

namespace ExitGesture

namespace HoldTimer

theorem consumes_advance (t : HoldTimer) (c : Config) (now : Time) :
    (t.advance c now).2.consumes = true := by
  by_cases long : c.hold.millis ≤ now - t.since
  · simp [advance, long, Verdict.consumes]
  · by_cases pulse : c.pulseInterval.millis ≤ now - t.lastPulse <;>
      simp [advance, long, pulse, Verdict.consumes]

theorem lasts_advance {t : HoldTimer} {c : Config} {now : Time}
    (goes_on : (t.advance c now).2 ≠ .complete) : (t.advance c now).2.lasts = true := by
  have early : ¬ c.hold.millis ≤ now - t.since := fun long => goes_on (advance_complete_iff.2 long)
  by_cases pulse : c.pulseInterval.millis ≤ now - t.lastPulse <;>
    simp [advance, early, pulse, Verdict.lasts]

end HoldTimer

/-! ### Pairs -/

namespace PairHold

variable {region : Region} {v : View} {first second : Contact} {timer : HoldTimer} {s : Stimulus}

/-- The timer of a pair that is held. -/
def Phase.timer? : Phase → Option HoldTimer
  | .holding _ _ timer => some timer
  | .idle | .awaitingSecond _ => none

/-- A stimulus looks at the clock of a pair: a tick does, and a move of any pointer that disturbs
neither of the two. -/
def Consults (v : View) : Phase → Stimulus → Prop
  | .holding first second _, s =>
      (s.Steady fun _ => True) ∧ Undisturbed v.config.driftTolerance first second s
  | .idle, _ | .awaitingSecond _, _ => False

/-- A move that disturbs neither pointer strays from no anchor. -/
theorem near_of_undisturbed {c : Contact}
    (undisturbed : Undisturbed v.config.driftTolerance first second (.motion .move c)) :
    ([first, second].find? (·.pointer = c.pointer)).any
      (fun anchor => v.strays (anchor.drift c)) = false := by
  have near_first := Stimulus.spares_move_iff.1 undisturbed.first_spared
  by_cases at_first : first.pointer = c.pointer
  · simp [at_first, View.not_strays_iff.2 (near_first at_first.symm)]
  · by_cases at_second : second.pointer = c.pointer
    · have distinct : first.pointer ≠ second.pointer := fun same => at_first (same.trans at_second)
      have near_second := Stimulus.spares_move_iff.1 (undisturbed.second_spared distinct)
      simp [at_first, at_second, View.not_strays_iff.2 (near_second at_second.symm)]
    · simp [at_first, at_second]

theorem react_of_consults (looks : Consults v (.holding first second timer) s) :
    react region v (.holding first second timer) s =
      (.holding first second (timer.advance v.config s.time).1,
        (timer.advance v.config s.time).2) := by
  obtain ⟨steady, undisturbed⟩ := looks
  cases s with
  | tick now => rfl
  | motion k c =>
      cases k with
      | land => exact steady.elim
      | move => exact react_near (near_of_undisturbed undisturbed)
      | lift => exact steady.elim

theorem react_of_not_consults (region : Region)
    (passes : ¬ Consults v (.holding first second timer) s) :
    react region v (.holding first second timer) s =
        (.holding first second timer, .proceed true) ∨
      ∃ why, react region v (.holding first second timer) s =
        (.holding first second timer, .abandon why) := by
  have reaction := reaction region v (.holding first second timer) s
  generalize react region v (.holding first second timer) s = o at reaction ⊢
  cases reaction with
  | look steady undisturbed => exact absurd ⟨steady, undisturbed⟩ passes
  | pass => exact Or.inl rfl
  | fail => exact Or.inr ⟨_, rfl⟩

/-- A pair is validated by the landing that starts its timer. -/
theorem timer?_of_activated {p : Phase} (inactive : p.stage ≠ .active)
    (active : (react region v p s).1.stage = .active) :
    (react region v p s).1.timer? = some (.start s.time) := by
  have reaction := reaction region v p s
  generalize react region v p s = o at reaction active ⊢
  cases reaction with
  | pair => rfl
  | rest | first | again | wait => cases active
  | look | pass => exact absurd rfl inactive
  | fail => exact absurd active inactive

/-- Only the timer asks for a pulse. -/
theorem active_of_pulse {p : Phase} {held : Nat} (pulses : (react region v p s).2 = .pulse held) :
    p.stage = .active := by
  have reaction := reaction region v p s
  generalize react region v p s = o at reaction pulses
  cases reaction with
  | look => rfl
  | rest | first | again | pair | wait | pass | fail => cases pulses

end PairHold

/-! ### Drags -/

namespace EdgeDrag

variable {v : View} {pointer : PointerId} {anchor : Point} {timer : HoldTimer} {s : Stimulus}

/-- The timer of a pointer that is held at an edge. -/
def Phase.timer? : Phase → Option HoldTimer
  | .holding _ _ timer => some timer
  | .idle | .pressed _ _ | .dragging _ => none

/-- A stimulus looks at the clock of a hold at an edge: a tick does, and a move of its pointer that
stays at an edge and near the place where it arrived. -/
def Consults (v : View) : Phase → Stimulus → Prop
  | .holding pointer anchor _, s =>
      s.Steady fun b => b.pointer = pointer ∧ v.surface.isAtEdge b.position = true ∧
        ¬ v.config.driftTolerance < anchor.distance b.position
  | .idle, _ | .pressed _ _, _ | .dragging _, _ => False

theorem react_of_not_consults (passes : ¬ Consults v (.holding pointer anchor timer) s) :
    react v (.holding pointer anchor timer) s = (.holding pointer anchor timer, .proceed true) ∨
      ∃ why, react v (.holding pointer anchor timer) s =
        (.holding pointer anchor timer, .abandon why) := by
  have reaction := reaction v (.holding pointer anchor timer) s
  generalize react v (.holding pointer anchor timer) s = o at reaction ⊢
  cases reaction with
  | look rests => exact absurd rests passes
  | pass => exact Or.inl rfl
  | fail => exact Or.inr ⟨_, rfl⟩

theorem timer?_arrive {place : Point} {now : Time}
    (active : (arrive v pointer place now).stage = .active) :
    (arrive v pointer place now).timer? = some (.start now) := by
  unfold arrive at active ⊢
  split_ifs at active ⊢
  · rfl
  · cases active

/-- A drag is validated by the stimulus that finds its pointer at an edge. -/
theorem timer?_of_activated {p : Phase} (inactive : p.stage ≠ .active)
    (active : (react v p s).1.stage = .active) :
    (react v p s).1.timer? = some (.start s.time) := by
  have reaction := reaction v p s
  generalize react v p s = o at reaction active ⊢
  cases reaction with
  | promote | follow => exact timer?_arrive active
  | rest | press | wait | stray => cases active
  | look | pass => exact absurd rfl inactive
  | fail => exact absurd active inactive

theorem active_of_pulse {p : Phase} {held : Nat} (pulses : (react v p s).2 = .pulse held) :
    p.stage = .active := by
  have reaction := reaction v p s
  generalize react v p s = o at reaction pulses
  cases reaction with
  | look => rfl
  | rest | press | wait | promote | stray | follow | pass | fail => cases pulses

end EdgeDrag

/-- Three taps have nothing to hold, and nobody is told before they are complete. -/
theorem TripleTap.ne_pulse {v : View} (p : Phase) (s : Stimulus) (held : Nat) :
    (react v p s).2 ≠ .pulse held := by
  intro pulses
  have reaction := reaction v p s
  generalize react v p s = o at reaction pulses
  cases reaction with
  | rest | first | again | next | pause | press | lift | last | fail => cases pulses

/-! ### All gestures -/

namespace Tracker

variable {v : View} {τ : Tracker} {s : Stimulus} {timer : HoldTimer}

/-- The timer of a hold that is active. -/
def timer? : Tracker → Option HoldTimer
  | .pairHold _ p => p.timer?
  | .edgeDrag p => p.timer?
  | .tripleTap _ => none

/-- A stimulus looks at the clock of the hold. -/
def Consults (v : View) : Tracker → Stimulus → Prop
  | .pairHold _ p, s => PairHold.Consults v p s
  | .edgeDrag p, s => EdgeDrag.Consults v p s
  | .tripleTap _, _ => False

theorem isSome_timer?_iff : τ.timer?.isSome = true ↔ τ.stage = .active := by
  rcases τ with ⟨region, p⟩ | p | p <;> cases p <;> simp [timer?, stage, PairHold.Phase.timer?,
    PairHold.Phase.stage, EdgeDrag.Phase.timer?, EdgeDrag.Phase.stage, TripleTap.Phase.stage]

theorem active_of_timer? (runs : τ.timer? = some timer) : τ.stage = .active :=
  isSome_timer?_iff.1 (by rw [runs]; rfl)

/-- A look at the clock is all that the stimulus comes to. -/
theorem react_of_consults (runs : τ.timer? = some timer) (looks : τ.Consults v s) :
    (τ.react v s).1.timer? = some (timer.advance v.config s.time).1 ∧
      (τ.react v s).2 = (timer.advance v.config s.time).2 := by
  cases τ with
  | pairHold region p =>
      cases p with
      | idle => cases runs
      | awaitingSecond first => cases runs
      | holding first second timer' =>
          cases runs
          rw [PairHold.tracker_react, PairHold.react_of_consults looks]
          exact ⟨rfl, rfl⟩
  | edgeDrag p =>
      cases p with
      | idle => cases runs
      | pressed press last => cases runs
      | dragging pointer => cases runs
      | holding pointer anchor timer' =>
          cases runs
          rw [EdgeDrag.tracker_react, EdgeDrag.react_rests looks]
          exact ⟨rfl, rfl⟩
  | tripleTap p => cases runs

/-- A landing is no look at the clock. -/
theorem not_consults_land (c : Contact) : ¬ τ.Consults v (.motion .land c) := by
  cases τ with
  | pairHold region p =>
      cases p with
      | idle => exact id
      | awaitingSecond first => exact id
      | holding first second timer => exact And.left
  | edgeDrag p => cases p <;> exact id
  | tripleTap p => exact id

/-- Any other stimulus leaves the timer alone, and lets the hold go on or gives it up. -/
theorem react_of_not_consults (runs : τ.timer? = some timer) (passes : ¬ τ.Consults v s) :
    (τ.react v s).1 = τ ∧
      ((τ.react v s).2 = .proceed true ∨ ∃ why, (τ.react v s).2 = .abandon why) := by
  cases τ with
  | pairHold region p =>
      cases p with
      | idle => cases runs
      | awaitingSecond first => cases runs
      | holding first second timer' =>
          rw [PairHold.tracker_react]
          rcases PairHold.react_of_not_consults region passes with eq | ⟨why, eq⟩
          · rw [eq]
            exact ⟨rfl, Or.inl rfl⟩
          · rw [eq]
            exact ⟨rfl, Or.inr ⟨why, rfl⟩⟩
  | edgeDrag p =>
      cases p with
      | idle => cases runs
      | pressed press last => cases runs
      | dragging pointer => cases runs
      | holding pointer anchor timer' =>
          rw [EdgeDrag.tracker_react]
          rcases EdgeDrag.react_of_not_consults passes with eq | ⟨why, eq⟩
          · rw [eq]
            exact ⟨rfl, Or.inl rfl⟩
          · rw [eq]
            exact ⟨rfl, Or.inr ⟨why, rfl⟩⟩
  | tripleTap p => cases runs

/-- A hold starts its timer at the time of the stimulus that makes it active. -/
theorem timer?_of_activated (inactive : τ.stage ≠ .active)
    (active : (τ.react v s).1.stage = .active) :
    (τ.react v s).1.timer? = some (.start s.time) := by
  cases τ with
  | pairHold region p =>
      rw [PairHold.tracker_react] at active ⊢
      exact PairHold.timer?_of_activated inactive active
  | edgeDrag p =>
      rw [EdgeDrag.tracker_react] at active ⊢
      exact EdgeDrag.timer?_of_activated inactive active
  | tripleTap p =>
      rw [TripleTap.tracker_react] at active
      have taps (p : TripleTap.Phase) : p.stage ≠ .active := by
        cases p <;> exact Stage.noConfusion
      exact absurd active (taps _)

/-- A pulse comes from a hold that is active. -/
theorem active_of_pulse {held : Nat} (pulses : (τ.react v s).2 = .pulse held) :
    τ.stage = .active := by
  cases τ with
  | pairHold region p =>
      rw [PairHold.tracker_react] at pulses
      exact PairHold.active_of_pulse pulses
  | edgeDrag p =>
      rw [EdgeDrag.tracker_react] at pulses
      exact EdgeDrag.active_of_pulse pulses
  | tripleTap p =>
      rw [TripleTap.tracker_react] at pulses
      exact absurd pulses (TripleTap.ne_pulse p s held)

end Tracker
end ExitGesture
