import ExitGesture.Log

/-!
# Signals and outcomes

A recognizer does not call anybody.  Each operation gives its answer, the next state and the list of
signals for the outside, and operations that follow one another add their signals up.
-/

namespace ExitGesture

/-- What a recognizer lets the outside know, in the order in which it happens. -/
inductive Signal
  /-- A log entry. -/
  | log (entry : LogEntry)
  /-- The listener is told how long the hold has lasted, in milliseconds. -/
  | pulse (held : Nat)
  /-- The listener is told that the gesture is complete. -/
  | triggered
  deriving DecidableEq

/-- What an operation on a state gives: its answer, the next state, and the signals on the way. -/
structure Outcome (σ α : Type) where
  answer : α
  state : σ
  signals : List Signal

namespace Outcome

variable {σ τ α β : Type}

/-- Nothing is signalled. -/
def silent (state : σ) (answer : α) : Outcome σ α := ⟨answer, state, []⟩

/-- Go on with the answer and the state; signals add up. -/
def bind (o : Outcome σ α) (next : σ → α → Outcome σ β) : Outcome σ β :=
  let o' := next o.state o.answer
  { o' with signals := o.signals ++ o'.signals }

/-- Replace the answer. -/
def answering (o : Outcome σ α) (answer : β) : Outcome σ β :=
  { o with answer }

@[simp] theorem signals_bind (o : Outcome σ α) (next : σ → α → Outcome σ β) :
    (o.bind next).signals = o.signals ++ (next o.state o.answer).signals := rfl

@[simp] theorem state_bind (o : Outcome σ α) (next : σ → α → Outcome σ β) :
    (o.bind next).state = (next o.state o.answer).state := rfl

@[simp] theorem answer_bind (o : Outcome σ α) (next : σ → α → Outcome σ β) :
    (o.bind next).answer = (next o.state o.answer).answer := rfl

end Outcome
end ExitGesture
