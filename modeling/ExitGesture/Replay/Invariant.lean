import ExitGesture.Replay.Trace

/-!
# Invariants of traces

An invariant is a property that every trace has, however malformed the stream.  A check gives the
first breach that it finds, as text; a registry is a list of invariants that are checked together.
-/

namespace ExitGesture

/-- A property checked on traces; the check describes the first breach. -/
structure Invariant where
  name : String
  check : Trace → Option String

/-- A breach of an invariant. -/
@[ext]
structure Violation where
  invariant : String
  message : String
  deriving DecidableEq, Repr

def Violation.line (v : Violation) : String := v.invariant ++ ": " ++ v.message

/-- The breach that an invariant finds. -/
def Invariant.violation? (i : Invariant) (t : Trace) : Option Violation :=
  (i.check t).map fun message => ⟨i.name, message⟩

/-- Invariants that are checked together, in order. -/
abbrev Registry := List Invariant

namespace Registry

/-- Every breach that a registry finds. -/
def checkAll (r : Registry) (t : Trace) : List Violation :=
  r.filterMap (·.violation? t)

/-- The complaint about a trace that breaks an invariant. -/
def complaint? (r : Registry) (t : Trace) (context : String) : Option String :=
  match checkAll r t with
  | [] => none
  | violations =>
      some ("Invariant violation " ++ context ++ ":\n  " ++
        "\n  ".intercalate (violations.map Violation.line))

theorem checkAll_eq_nil_iff {r : Registry} {t : Trace} :
    checkAll r t = [] ↔ ∀ i ∈ r, i.check t = none := by
  simp [checkAll, Invariant.violation?]

theorem complaint?_eq_none_iff {r : Registry} {t : Trace} {context : String} :
    complaint? r t context = none ↔ ∀ i ∈ r, i.check t = none := by
  rw [← checkAll_eq_nil_iff]
  unfold complaint?
  split <;> simp_all

end Registry
end ExitGesture
