import ExitGesture.Signal
import ExitGesture.Tracker.Basic

/-!
# The recognizer

The recognizer is fed every touch of the host.  It classifies the stream against the configured
gesture, signals the gesture once when it is complete, and is idle again at once.

**A touch.**  The pointers on the surface are counted whatever else happens.  While touch
exploration owns the input nothing more is done.  After a trigger the recognizer is latched: it
waits for a new stream, or for the end of the old one.  A cancel gives the attempt up.  A new
stream gives up an attempt that still tracks a pointer.  A pointer too many gives the attempt up.
Only then does the tracker see the touch.

**Time.**  Timeouts and holds are judged by the times of touches.  A host that can may also let
time pass by `tick`, so that a still hold completes without a move.

**Configuration.**  The snapshot changes only by `reload`, and only while the recognizer is idle.
-/

namespace ExitGesture

/-- What a recognizer asks of its host. -/
structure Host where
  /-- The configuration that the host serves. -/
  config : Except ConfigError Config
  /-- Whether touch exploration owns the input. -/
  exploring : Bool
  /-- The header region now. -/
  header : Rect

/-- The configuration of a host, if it can be used: it is valid, and the header gesture has a
header to land in. -/
def Host.load (h : Host) : Except ConfigError Config :=
  match h.config with
  | .error e => .error e
  | .ok c =>
      match c.validate with
      | .error e => .error e
      | .ok () =>
          if c.gesture = .twoFingerHeaderHold ∧ h.header.isEmpty then .error (.emptyHeader h.header)
          else .ok c

/-- A recognizer bound to one input surface. -/
structure Recognizer where
  config : Config
  surface : Surface
  tracker : Tracker
  /-- Every pointer that is down, tracked or not, once each. -/
  onSurface : List PointerId
  /-- Set by a trigger until its stream is over. -/
  latched : Bool
  /-- Why the last attempt was given up. -/
  lastAbandon : Option AbandonReason
  /-- How often the gesture was completed. -/
  triggers : Nat
  deriving DecidableEq

namespace Recognizer

/-- An idle recognizer for a configuration. -/
def ofConfig (c : Config) : Recognizer where
  config := c
  surface := .ofConfig c
  tracker := .ofGesture c.gesture
  onSurface := []
  latched := false
  lastAbandon := none
  triggers := 0

/-- A recognizer for the configuration of a host. -/
def start (h : Host) : Except ConfigError (Outcome Recognizer Unit) :=
  h.load.map fun c => ⟨(), ofConfig c, [.log (.ready c.gesture)]⟩

def stage (r : Recognizer) : Stage := r.tracker.stage

def awaiting (r : Recognizer) : Option Awaiting := r.tracker.awaiting

/-- The pointers of the attempt that are down. -/
def tracked (r : Recognizer) : List PointerId := r.tracker.tracked

def view (r : Recognizer) (h : Host) : View := ⟨r.config, r.surface, h.header⟩

/-- The pointers on the surface after a touch. -/
def pointersAfter (onSurface : List PointerId) (t : Touch) : List PointerId :=
  match t.kind with
  | .down => [t.pointer]
  | .pointerDown => onSurface.insert t.pointer
  | .pointerUp => onSurface.erase t.pointer
  | .up | .cancel => []
  | .move => onSurface

/-- Give up the attempt, if there is one. -/
def abandon (r : Recognizer) (reason : AbandonReason) : Outcome Recognizer Unit :=
  let idle := { r with tracker := r.tracker.cleared }
  if r.stage = .idle then .silent idle ()
  else ⟨(), { idle with lastAbandon := some reason }, [.log (.abandoned reason)]⟩

/-- Carry out what the tracker decided.  The answer is whether the host should not react; a trigger
latches the recognizer unless its touch ends the stream. -/
def settle (r : Recognizer) (verdict : Verdict) (endsStream : Bool) : Outcome Recognizer Bool :=
  match verdict with
  | .proceed consumed => .silent r consumed
  | .restart gap => ⟨false, r, [.log (.latePartner gap)]⟩
  | .pulse held => ⟨true, r, [.pulse held]⟩
  | .abandon reason => (r.abandon reason).answering false
  | .complete =>
      ⟨true,
        { r with
          tracker := r.tracker.cleared
          latched := !endsStream
          triggers := r.triggers + 1 },
        [.log (.triggered r.config.gesture), .triggered]⟩

/-- The entry for a change of stage. -/
def stageLog (before after : Stage) (now : Time) : List Signal :=
  if before = after then [] else [.log (.stageChanged before after now)]

/-- Take a tracker's step: its new state, and what it decided. -/
def advance (r : Recognizer) (step : Tracker × Verdict) (now : Time) (endsStream : Bool) :
    Outcome Recognizer Bool :=
  let o := { r with tracker := step.1 }.settle step.2 endsStream
  { o with signals := o.signals ++ stageLog r.stage o.state.stage now }

/-- A contact moves while the recognizer listens. -/
def motion (r : Recognizer) (h : Host) (t : Touch) (m : Touch.Motion) : Outcome Recognizer Bool :=
  let started :=
    if t.kind = .down ∧ r.tracked ≠ [] then r.abandon .streamRestarted else .silent r ()
  started.bind fun r () =>
    if m = .land ∧ r.config.gesture.maxPointers < r.onSurface.length then
      let o := r.abandon .extraPointer
      ⟨false, o.state, .log (.tooManyPointers r.onSurface.length) :: o.signals⟩
    else r.advance (r.tracker.step (r.view h) m t.contact) t.time (t.kind = .up)

/-- Process one touch.  The answer is whether the touch belongs to a gesture and the host should
not react to it as well. -/
def touch (r : Recognizer) (h : Host) (t : Touch) : Outcome Recognizer Bool :=
  let r := { r with onSurface := pointersAfter r.onSurface t }
  if h.exploring then .silent r false
  else if r.latched ∧ t.kind ≠ .down then
    .silent { r with latched := !t.kind.endsStream } false
  else
    let r := { r with latched := false }
    match t.kind.motion? with
    | none => (r.abandon .cancelled).answering false
    | some m => r.motion h t m

/-- Let time pass.  The answer is whether the gesture was completed. -/
def tick (r : Recognizer) (h : Host) (now : Time) : Outcome Recognizer Bool :=
  if r.latched ∨ h.exploring then .silent r false
  else
    let step := r.tracker.tick (r.view h) now
    (r.advance step now false).answering (step.2 = .complete)

/-- Give up everything at the host's request. -/
def reset (r : Recognizer) : Outcome Recognizer Unit :=
  { r with onSurface := [], latched := false }.abandon .requested

/-- Work from another configuration. -/
def configured (r : Recognizer) (c : Config) : Recognizer :=
  { r with
    config := c
    surface := .ofConfig c
    tracker := if c.gesture = r.config.gesture then r.tracker else .ofGesture c.gesture }

/-- Take over the host's configuration. -/
def reload (r : Recognizer) (h : Host) : Outcome Recognizer (Except ConfigError Unit) :=
  if r.stage ≠ .idle then
    ⟨.error .gestureInProgress, r, [.log (.reloadRefused r.stage)]⟩
  else
    match h.load with
    | .error e => ⟨.error e, r, [.log (.reloadFailed e)]⟩
    | .ok c => ⟨.ok (), r.configured c, [.log (.reloaded c.gesture)]⟩

theorem stage_abandon (r : Recognizer) (reason : AbandonReason) :
    (r.abandon reason).state.stage = .idle := by
  unfold abandon
  split <;> exact Tracker.stage_cleared _

theorem touch_exploring {r : Recognizer} {h : Host} {t : Touch} (he : h.exploring = true) :
    r.touch h t = .silent { r with onSurface := pointersAfter r.onSurface t } false := by
  simp [touch, he]

theorem tick_exploring {r : Recognizer} {h : Host} {now : Time} (he : h.exploring = true) :
    r.tick h now = .silent r false := by
  simp [tick, he]

end Recognizer
end ExitGesture
