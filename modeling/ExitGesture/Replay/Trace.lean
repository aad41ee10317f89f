import ExitGesture.Session.Basic

/-!
# Traces

A trace is what a recognizer reported for each touch of a stream: whether the touch was consumed,
the stage and what it waits for, whether the gesture was completed, and whether exploration owned
the input.

**Transitions.**  The steps that changed the stage or completed the gesture, one line each.  Long
holds stay short that way.
-/

namespace ExitGesture

/-- What was reported for one touch. -/
structure TraceStep where
  touch : Touch
  consumed : Bool
  /-- The stage after the touch. -/
  stage : Stage
  /-- What the attempt waits for after the touch. -/
  awaiting : Option Awaiting
  /-- Whether the touch completed the gesture. -/
  triggered : Bool
  /-- Whether exploration owned the input when the touch arrived. -/
  exploring : Bool
  deriving DecidableEq

/-- What was reported for a stream. -/
structure Trace where
  /-- The stage before the first touch. -/
  initial : Stage
  /-- The gesture looked for, where it is known. -/
  gesture : Option Gesture
  steps : List TraceStep
  deriving DecidableEq

/-- A step that changed the stage or completed the gesture. -/
structure Change where
  time : Time
  kind : Touch.Kind
  pointer : PointerId
  stage : Stage
  triggered : Bool
  deriving DecidableEq

def Change.line (c : Change) : String :=
  c.time.repr ++ "ms " ++ c.kind.name ++ " #" ++ c.pointer.repr ++ " -> " ++ c.stage.name ++
    (if c.triggered then " triggered" else "")

/-- A step seen as a change. -/
def TraceStep.change (s : TraceStep) : Change :=
  ⟨s.touch.time, s.touch.kind, s.touch.pointer, s.stage, s.triggered⟩

namespace Trace

/-- A trace put together by hand, beginning idle. -/
def ofSteps (steps : List TraceStep) : Trace := ⟨.idle, none, steps⟩

/-- How many steps completed the gesture. -/
def triggers (t : Trace) : Nat := t.steps.countP TraceStep.triggered

def stageAfter (initial : Stage) : List TraceStep → Stage
  | [] => initial
  | s :: rest => stageAfter s.stage rest

def finalStage (t : Trace) : Stage := stageAfter t.initial t.steps

/-- The changes among some steps. -/
def changesFrom (previous : Stage) : List TraceStep → List Change
  | [] => []
  | s :: rest =>
      if s.stage = previous ∧ s.triggered = false then changesFrom previous rest
      else s.change :: changesFrom s.stage rest

def changes (t : Trace) : List Change := changesFrom t.initial t.steps

/-- The changes, one to a line. -/
def transitions (t : Trace) : String :=
  String.join (t.changes.map fun c => c.line ++ "\n")

theorem countP_triggered_changesFrom (previous : Stage) (steps : List TraceStep) :
    (changesFrom previous steps).countP Change.triggered = steps.countP TraceStep.triggered := by
  induction steps generalizing previous with
  | nil => rfl
  | cons s rest ih =>
      by_cases h : s.stage = previous ∧ s.triggered = false
      · simp [changesFrom, h, ih]
      · simp [changesFrom, h, ih, List.countP_cons, TraceStep.change]

end Trace

namespace Session

/-- Process one touch and note what is reported. -/
def observe (s : Session) (t : Touch) : Outcome Session TraceStep :=
  let o := s.touch t
  o.answering
    { touch := t
      consumed := o.answer
      stage := o.state.recognizer.stage
      awaiting := o.state.recognizer.awaiting
      triggered := s.recognizer.triggers < o.state.recognizer.triggers
      exploring := s.exploring }

/-- Process touches in order and note what is reported. -/
def observeAll (s : Session) : List Touch → Outcome Session (List TraceStep)
  | [] => .silent s []
  | t :: rest =>
      (s.observe t).bind fun s step =>
        let o := observeAll s rest
        o.answering (step :: o.answer)

/-- The trace of a stream. -/
def replay (s : Session) (touches : List Touch) : Outcome Session Trace :=
  let o := s.observeAll touches
  o.answering ⟨s.recognizer.stage, some s.recognizer.config.gesture, o.answer⟩

end Session
end ExitGesture
