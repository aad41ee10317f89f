import ExitGesture.Proofs.Run
import Mathlib.Data.List.Basic

/-!
# Retellings

A history can be told again: with other names for its pointers, with a clock that is ahead, and to
somebody who does not care for the pulses of a hold.  It can also be told of a recognizer whose
configuration differs in what its gesture is not judged by.  This module says what a retelling makes
of everything that a recognizer is told and tells, and which states are told alike; that recognizers
keep to it is proved in the modules that follow.
-/

namespace ExitGesture

/-! ### What a gesture is judged by -/

/-- The durations that a gesture is judged by. -/
def Gesture.gates : Gesture → List Gate
  | .oppositeCornersHold | .twoFingerHeaderHold => [.hold, .pairing]
  | .singleFingerEdgeDragHold => [.hold, .longPress]
  | .tripleTapDebug => [.tap]

/-- The thresholds that a gesture is judged by. -/
def Gesture.thresholds : Gesture → List Threshold
  | .oppositeCornersHold => [.driftTolerance, .cornerSize, .pairDistanceRatio]
  | .twoFingerHeaderHold | .tripleTapDebug => [.driftTolerance]
  | .singleFingerEdgeDragHold => [.driftTolerance, .edgeTolerance]

/-- Two configurations of one gesture, on screens of one size, that agree on what the gesture is
judged by.  Durations agree if they count for the same number of milliseconds. -/
structure Config.Agrees (c c' : Config) : Prop where
  gesture : c'.gesture = c.gesture
  width : c'.screenWidth = c.screenWidth
  height : c'.screenHeight = c.screenHeight
  gates : ∀ g ∈ c.gesture.gates, (c'.duration g).millis = (c.duration g).millis
  thresholds : ∀ t ∈ c.gesture.thresholds, c'.threshold t = c.threshold t

theorem Config.Agrees.refl (c : Config) : c.Agrees c :=
  ⟨rfl, rfl, rfl, fun _ _ => rfl, fun _ _ => rfl⟩

def Signal.isPulse : Signal → Bool
  | .pulse _ => true
  | .log _ | .triggered => false

/-- The hold goes on, with a pulse or without. -/
inductive Verdict.Holds : Verdict → Prop
  | proceed : Holds (.proceed true)
  | pulse (held : Nat) : Holds (.pulse held)

theorem HoldTimer.holds_advance {t : HoldTimer} {c : Config} {now : Time}
    (runs : ¬ c.hold.millis ≤ now - t.since) : (t.advance c now).2.Holds := by
  by_cases due : c.pulseInterval.millis ≤ now - t.lastPulse
  · simp only [advance, runs, due, if_true, if_false]
    exact .pulse _
  · simp only [advance, runs, due, if_false]
    exact .proceed

/-- A way to tell a history again. -/
structure Retelling where
  /-- What a pointer is called. -/
  name : PointerId → PointerId
  injective : Function.Injective name
  /-- How far the clock is ahead. -/
  delay : Time
  /-- Whether the pulses of a hold are told. -/
  pulses : Bool

namespace Retelling

/-- A later clock. -/
def later (k : Time) : Retelling := ⟨id, Function.injective_id, k, true⟩

/-- Other names for the pointers. -/
def renamed (f : PointerId → PointerId) (injective : Function.Injective f) : Retelling :=
  ⟨f, injective, 0, true⟩

/-- The same without the pulses. -/
def withoutPulses : Retelling := ⟨id, Function.injective_id, 0, false⟩

variable (ρ : Retelling)

/-- A contact, retold. -/
def contact (c : Contact) : Contact := ⟨ρ.name c.pointer, c.position, c.time + ρ.delay⟩

def touch (t : Touch) : Touch := ⟨t.kind, ρ.contact t.contact⟩

def request : Request → Request
  | .touch t => .touch (ρ.touch t)
  | .tick now => .tick (now + ρ.delay)
  | .reset => .reset
  | .reload => .reload

/-- A moment, retold.  The host is the same. -/
def moment (m : Moment) : Moment := ⟨m.host, ρ.request m.request⟩

/-- A signal, retold.  Only the log tells times. -/
def signal : Signal → Signal
  | .log (.stageChanged before after now) => .log (.stageChanged before after (now + ρ.delay))
  | .log entry => .log entry
  | .pulse held => .pulse held
  | .triggered => .triggered

/-- Whether a signal is told. -/
def tells (s : Signal) : Bool := ρ.pulses || !s.isPulse

@[simp] theorem tells_log (entry : LogEntry) : ρ.tells (.log entry) = true := by
  simp [tells, Signal.isPulse]

@[simp] theorem tells_triggered : ρ.tells .triggered = true := by
  simp [tells, Signal.isPulse]

@[simp] theorem tells_pulse (held : Nat) : ρ.tells (.pulse held) = ρ.pulses := by
  simp [tells, Signal.isPulse]

@[simp] theorem pointer_contact (c : Contact) : (ρ.contact c).pointer = ρ.name c.pointer := rfl

@[simp] theorem position_contact (c : Contact) : (ρ.contact c).position = c.position := rfl

@[simp] theorem time_contact (c : Contact) : (ρ.contact c).time = c.time + ρ.delay := rfl

@[simp] theorem drift_contact (a b : Contact) :
    (ρ.contact a).drift (ρ.contact b) = a.drift b := rfl

@[simp] theorem name_eq_iff {p q : PointerId} : ρ.name p = ρ.name q ↔ p = q :=
  ρ.injective.eq_iff

/-! ### What is told alike -/

/-- Two configurations that make no difference to a retelling. -/
structure Configs (c c' : Config) : Prop where
  agrees : c.Agrees c'
  pulses : ρ.pulses = true → c'.pulseInterval.millis = c.pulseInterval.millis

theorem Configs.refl (c : Config) : ρ.Configs c c := ⟨.refl c, fun _ => rfl⟩

/-- Two views that make no difference to a retelling. -/
structure Views (v v' : View) : Prop where
  configs : ρ.Configs v.config v'.config
  surface : v.surface = .ofConfig v.config
  surface' : v'.surface = .ofConfig v'.config
  header : v'.header = v.header

/-- Two verdicts that are told alike. -/
inductive Verdicts : Verdict → Verdict → Prop
  | same (w : Verdict) : Verdicts w w
  /-- A pulse that is not told is a hold that goes on. -/
  | untold {w w' : Verdict} (quiet : ρ.pulses = false) (holds : w.Holds) (holds' : w'.Holds) :
      Verdicts w w'

theorem Verdicts.complete_iff {w w' : Verdict} (verdicts : ρ.Verdicts w w') :
    w' = .complete ↔ w = .complete := by
  cases verdicts with
  | same => rfl
  | untold _ holds holds' => cases holds <;> cases holds' <;> simp

/-- Two timers of one hold.  Nobody who does not care for pulses can tell when the last one was. -/
structure Timers (t t' : HoldTimer) : Prop where
  since : t'.since = t.since + ρ.delay
  lastPulse : ρ.pulses = true → t'.lastPulse = t.lastPulse + ρ.delay

variable {ρ}

theorem Timers.start (now : Time) : ρ.Timers (.start now) (.start (now + ρ.delay)) :=
  ⟨rfl, fun _ => rfl⟩

/-- Two looks at the clock.  The holds complete together; until then they go on together, and their
pulses come together if they are told. -/
theorem Timers.advance {t t' : HoldTimer} {c c' : Config} (timers : ρ.Timers t t')
    (configs : ρ.Configs c c') (judged : Gate.hold ∈ c.gesture.gates) (now : Time) :
    ρ.Timers (t.advance c now).1 (t'.advance c' (now + ρ.delay)).1 ∧
      ρ.Verdicts (t.advance c now).2 (t'.advance c' (now + ρ.delay)).2 := by
  have hold : c'.hold.millis = c.hold.millis := configs.agrees.gates .hold judged
  have held : now + ρ.delay - t'.since = now - t.since := by
    rw [timers.since, Nat.add_sub_add_right]
  by_cases elapsed : c.hold.millis ≤ now - t.since
  · simp only [HoldTimer.advance, hold, held, elapsed, if_true]
    exact ⟨timers, .same _⟩
  · cases told : ρ.pulses with
    | true =>
        have interval := configs.pulses told
        have rest : now + ρ.delay - t'.lastPulse = now - t.lastPulse := by
          rw [timers.lastPulse told, Nat.add_sub_add_right]
        by_cases due : c.pulseInterval.millis ≤ now - t.lastPulse
        · simp only [HoldTimer.advance, hold, held, elapsed, interval, rest, due, if_true,
            if_false]
          exact ⟨⟨timers.since, fun _ => rfl⟩, .same _⟩
        · simp only [HoldTimer.advance, hold, held, elapsed, interval, rest, due, if_false]
          exact ⟨timers, .same _⟩
    | false =>
        have elapsed' : ¬ c'.hold.millis ≤ now + ρ.delay - t'.since := by rwa [hold, held]
        refine ⟨⟨?_, fun told' => ?_⟩,
          .untold told (HoldTimer.holds_advance elapsed) (HoldTimer.holds_advance elapsed')⟩
        · rw [HoldTimer.advance_since, HoldTimer.advance_since, timers.since]
        · simp [told] at told'

/-! ### What a gesture asks -/

namespace Views

variable {v v' : View} (views : ρ.Views v v')
include views

theorem strays (distance : Float32) : v'.strays distance = v.strays distance := by
  have drift : v'.config.driftTolerance = v.config.driftTolerance := by
    refine views.configs.agrees.thresholds .driftTolerance ?_
    cases v.config.gesture <;> simp [Gesture.thresholds]
  simp only [View.strays, drift]

theorem expired (pairs : Gate.pairing ∈ v.config.gesture.gates) (first : Contact) (now : Time) :
    PairHold.expired v' (ρ.contact first) (now + ρ.delay) = PairHold.expired v first now := by
  have window : v'.config.pairTimeout.millis = v.config.pairTimeout.millis :=
    views.configs.agrees.gates .pairing pairs
  simp only [PairHold.expired, window, time_contact, Nat.add_sub_add_right]

theorem accepts {region : PairHold.Region} {p : PairHold.Phase}
    (gesture : (Tracker.pairHold region p).gesture = v.config.gesture) (a b : Point) :
    region.accepts v' a b = region.accepts v a b := by
  cases region with
  | header => simp only [PairHold.Region.accepts, views.header]
  | oppositeCorners =>
      have judged : v.config.gesture.thresholds =
          [.driftTolerance, .cornerSize, .pairDistanceRatio] := by
        rw [← gesture]
        rfl
      have corner : v'.config.cornerSize = v.config.cornerSize :=
        views.configs.agrees.thresholds .cornerSize (by simp [judged])
      have ratio : v'.config.pairDistanceRatio = v.config.pairDistanceRatio :=
        views.configs.agrees.thresholds .pairDistanceRatio (by simp [judged])
      simp only [PairHold.Region.accepts, Surface.isOppositePair, Surface.corner?,
        Surface.inTopLeft, Surface.inBottomRight, views.surface, views.surface', Surface.ofConfig,
        views.configs.agrees.width, views.configs.agrees.height, corner, ratio]

theorem isAtEdge (gesture : v.config.gesture = .singleFingerEdgeDragHold) (p : Point) :
    v'.surface.isAtEdge p = v.surface.isAtEdge p := by
  have edge : v'.config.edgeTolerance = v.config.edgeTolerance :=
    views.configs.agrees.thresholds .edgeTolerance (by simp [gesture, Gesture.thresholds])
  simp only [Surface.isAtEdge, views.surface, views.surface', Surface.ofConfig,
    views.configs.agrees.width, views.configs.agrees.height, edge]

theorem pressedLong (gesture : v.config.gesture = .singleFingerEdgeDragHold) (press : Contact)
    (now : Time) :
    EdgeDrag.pressedLong v' (ρ.contact press) (now + ρ.delay) =
      EdgeDrag.pressedLong v press now := by
  have long : v'.config.longPress.millis = v.config.longPress.millis :=
    views.configs.agrees.gates .longPress (by simp [gesture, Gesture.gates])
  simp only [EdgeDrag.pressedLong, long, time_contact, Nat.add_sub_add_right]

theorem overdue (gesture : v.config.gesture = .tripleTapDebug) (since now : Time) :
    TripleTap.overdue v' (since + ρ.delay) (now + ρ.delay) = TripleTap.overdue v since now := by
  have timeout : v'.config.tapTimeout.millis = v.config.tapTimeout.millis :=
    views.configs.agrees.gates .tap (by simp [gesture, Gesture.gates])
  simp only [TripleTap.overdue, timeout, Nat.add_sub_add_right]

end Views
end Retelling
end ExitGesture
