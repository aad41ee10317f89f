import ExitGesture.Replay.Invariant

/-!
# The standard invariants

Each check walks the trace with a little memory: whether the stream has fired, the stage before the
step, or the pointers that are down.  What it finds is a `Fault` at a step, worded in one place.
-/

namespace ExitGesture

/-- What can be wrong with a step. -/
inductive Fault
  | secondTrigger
  | consumedWhileExploring
  | firedWhileExploring
  | stageChangedWhileExploring (before after : Stage)
  | consumedWhile (stage : Stage)
  | leftByCancel (stage : Stage) (consumed : Bool)
  | tooManyDown (pointers limit : Nat)
  deriving DecidableEq, Repr

def Fault.text : Fault → String
  | .secondTrigger => "second trigger in one stream"
  | .consumedWhileExploring => "consumed during exploration"
  | .firedWhileExploring => "fired during exploration"
  | .stageChangedWhileExploring before after =>
      "state changed " ++ before.name ++ " -> " ++ after.name ++ " during exploration"
  | .consumedWhile stage => "consumed while " ++ stage.name
  | .leftByCancel stage consumed =>
      "cancel left state " ++ stage.name ++ " (consumed: " ++
        (if consumed then "true" else "false") ++ ")"
  | .tooManyDown pointers limit =>
      "fired with " ++ pointers.repr ++ " pointers down (limit " ++ limit.repr ++ ")"

/-- A fault and where it is. -/
structure Finding where
  index : Nat
  step : TraceStep
  fault : Fault
  deriving DecidableEq

def Finding.message (f : Finding) : String :=
  "event " ++ f.index.repr ++ " (" ++ f.step.touch.kind.name ++ " #" ++ f.step.touch.pointer.repr ++
    " at " ++ f.step.touch.time.repr ++ "ms): " ++ f.fault.text

/-- A check that walks a trace with a memory. -/
structure Walk (σ : Type) where
  /-- What is wrong with a step, given the memory of the steps before it. -/
  fault? : σ → TraceStep → Option Fault
  /-- The memory after a step. -/
  next : σ → TraceStep → σ

namespace Walk

variable {σ : Type}

/-- The first step at fault, counting from `index`. -/
def firstFinding (w : Walk σ) (memory : σ) (index : Nat) : List TraceStep → Option Finding
  | [] => none
  | s :: rest =>
      match w.fault? memory s with
      | some fault => some ⟨index, s, fault⟩
      | none => firstFinding w (w.next memory s) (index + 1) rest

def memoryAfter (w : Walk σ) (memory : σ) (steps : List TraceStep) : σ :=
  steps.foldl w.next memory

theorem firstFinding_none_iff (w : Walk σ) (memory : σ) (index : Nat) (steps : List TraceStep) :
    w.firstFinding memory index steps = none ↔
      ∀ front s back, steps = front ++ s :: back →
        w.fault? (w.memoryAfter memory front) s = none := by
  induction steps generalizing memory index with
  | nil => simp [firstFinding]
  | cons s rest ih =>
      constructor
      · intro h front t back split_eq
        cases hf : w.fault? memory s with
        | some fault => simp [firstFinding, hf] at h
        | none =>
            simp only [firstFinding, hf] at h
            cases front with
            | nil =>
                simp only [List.nil_append, List.cons.injEq] at split_eq
                rw [← split_eq.1]
                exact hf
            | cons u front =>
                simp only [List.cons_append, List.cons.injEq] at split_eq
                rw [← split_eq.1]
                exact (ih _ _).1 h front t back split_eq.2
      · intro h
        have head := h [] s rest rfl
        rw [memoryAfter, List.foldl_nil] at head
        simp only [firstFinding, head]
        exact (ih _ _).2 fun front t back e => h (s :: front) t back (by rw [e]; rfl)

theorem firstFinding_eq_some_iff (w : Walk σ) (memory : σ) (index : Nat)
    (steps : List TraceStep) (f : Finding) :
    w.firstFinding memory index steps = some f ↔
      ∃ front back, steps = front ++ f.step :: back ∧ f.index = index + front.length ∧
        w.fault? (w.memoryAfter memory front) f.step = some f.fault ∧
        w.firstFinding memory index front = none := by
  induction steps generalizing memory index with
  | nil => simp [firstFinding]
  | cons s rest ih =>
      cases hf : w.fault? memory s with
      | some fault =>
          simp only [firstFinding, hf, Option.some.injEq]
          constructor
          · intro h
            subst h
            exact ⟨[], rest, rfl, rfl, hf, rfl⟩
          · rintro ⟨front, back, split_eq, at_index, at_fault, none_before⟩
            cases front with
            | nil =>
                simp only [List.nil_append, List.cons.injEq] at split_eq
                rw [memoryAfter, List.foldl_nil, ← split_eq.1, hf] at at_fault
                obtain ⟨i, step, found⟩ := f
                simp_all
            | cons t front =>
                simp only [List.cons_append, List.cons.injEq] at split_eq
                rw [firstFinding, ← split_eq.1, hf] at none_before
                simp at none_before
      | none =>
          simp only [firstFinding, hf]
          rw [ih]
          constructor
          · rintro ⟨front, back, split_eq, at_index, at_fault, none_before⟩
            refine ⟨s :: front, back, by rw [split_eq]; rfl, ?_, at_fault, ?_⟩
            · rw [at_index, List.length_cons]
              omega
            · simp only [firstFinding, hf]
              exact none_before
          · rintro ⟨front, back, split_eq, at_index, at_fault, none_before⟩
            cases front with
            | nil =>
                simp only [List.nil_append, List.cons.injEq] at split_eq
                rw [memoryAfter, List.foldl_nil, ← split_eq.1, hf] at at_fault
                simp at at_fault
            | cons t front =>
                simp only [List.cons_append, List.cons.injEq] at split_eq
                obtain ⟨same, split_eq⟩ := split_eq
                subst same
                simp only [firstFinding, hf] at none_before
                refine ⟨front, back, split_eq, ?_, at_fault, none_before⟩
                rw [at_index, List.length_cons]
                omega

/-- The invariant that a walk checks. -/
def invariant (w : Walk σ) (name : String) (memory : Trace → σ) : Invariant where
  name := name
  check t := (w.firstFinding (memory t) 0 t.steps).map Finding.message

end Walk

namespace Invariant

/-- Remembers whether the stream has fired. -/
def triggerWalk : Walk Bool where
  fault? fired s :=
    if s.triggered && fired && s.touch.kind ≠ .down then some .secondTrigger else none
  next fired s :=
    ((fired && s.touch.kind ≠ .down) || s.triggered) && !s.touch.kind.endsStream

/-- A stream fires at most once.  It runs from a first pointer landing to the last one lifting, or
to a cancel. -/
def atMostOneTriggerPerStream : Invariant :=
  triggerWalk.invariant "at_most_one_trigger_per_stream" fun _ => false

/-- Remembers the stage. -/
def explorationWalk : Walk Stage where
  fault? previous s :=
    if !s.exploring then none
    else if s.consumed then some .consumedWhileExploring
    else if s.triggered then some .firedWhileExploring
    else if s.stage ≠ previous then some (.stageChangedWhileExploring previous s.stage)
    else none
  next _ s := s.stage

/-- While exploration owns the input nothing is consumed, nothing fires and the stage stays. -/
def accessibilityDeference : Invariant :=
  explorationWalk.invariant "accessibility_deference" Trace.initial

/-- Whether a step shows a gesture that the host should not react to. -/
def engaged (s : TraceStep) : Bool :=
  s.stage = .active || s.awaiting = some .edge || s.triggered

def consumptionWalk : Walk Unit where
  fault? _ s := if s.consumed && !engaged s then some (.consumedWhile s.stage) else none
  next _ _ := ()

/-- A touch is consumed only by a gesture that is held, dragged to an edge or just completed. -/
def consumedOnlyWhenEngaged : Invariant :=
  consumptionWalk.invariant "consumed_only_when_engaged" fun _ => ()

def cancelWalk : Walk Unit where
  fault? _ s :=
    if s.touch.kind = .cancel && !s.exploring && (s.consumed || s.stage ≠ .idle) then
      some (.leftByCancel s.stage s.consumed)
    else none
  next _ _ := ()

/-- A cancel always leads back to idle. -/
def idleAfterCancel : Invariant :=
  cancelWalk.invariant "idle_after_cancel" fun _ => ()

/-- How many pointers a trace may have down: two where the gesture is not known. -/
def pointerLimit (t : Trace) : Nat :=
  match t.gesture with
  | some g => g.maxPointers
  | none => 2

/-- The pointers down once those of a step have landed. -/
def landed (down : List PointerId) (s : TraceStep) : List PointerId :=
  match s.touch.kind with
  | .down => [s.touch.pointer]
  | .pointerDown => down.insert s.touch.pointer
  | .move | .up | .pointerUp | .cancel => down

/-- The pointers down once those of a step have lifted. -/
def lifted (down : List PointerId) (s : TraceStep) : List PointerId :=
  match s.touch.kind with
  | .pointerUp => down.erase s.touch.pointer
  | .up | .cancel => []
  | .down | .pointerDown | .move => down

/-- Remembers the pointers that are down, counted from the touches themselves.  A pointer that lifts
with a trigger still counts for it. -/
def pointerWalk (limit : Nat) : Walk (List PointerId) where
  fault? down s :=
    let pointers := (landed down s).length
    if s.triggered && limit < pointers then some (.tooManyDown pointers limit) else none
  next down s := lifted (landed down s) s

/-- The gesture never fires with more pointers down than it takes. -/
def noTriggerWithExtraPointers : Invariant where
  name := "no_trigger_with_extra_pointers"
  check t := ((pointerWalk (pointerLimit t)).firstFinding [] 0 t.steps).map Finding.message

end Invariant

/-- What every recognizer guarantees. -/
def Registry.standard : Registry :=
  [.atMostOneTriggerPerStream, .accessibilityDeference, .consumedOnlyWhenEngaged,
    .idleAfterCancel, .noTriggerWithExtraPointers]

end ExitGesture
